import Fabricd.Serve

/-!
# Tenant scoping

A session sees of the operator table only the bindings of its own tenant. Resolution, and
so the whole session, is a function of this view.
-/

namespace Fabricd

open Framework ClientAuth

/-- The bindings a tenant may resolve, by name. -/
def visible (table : Table) (tenant : Option String) (name : String) : Option ResourceBinding :=
  match table name with
  | none => none
  | some entry => if entry.tenant = tenant then some entry.binding else none

/-- Two tables agree on the entries of a tenant; the other entries are arbitrary. -/
def AgreeOn (tenant : Option String) (table₁ table₂ : Table) : Prop :=
  ∀ name entry, entry.tenant = tenant → (table₁ name = some entry ↔ table₂ name = some entry)

theorem visible_eq_some {table : Table} {tenant : Option String} {name : String}
    {binding : ResourceBinding} :
    visible table tenant name = some binding ↔ table name = some ⟨tenant, binding⟩ := by
  unfold visible
  cases hentry : table name with
  | none => simp
  | some entry =>
    obtain ⟨owner, bound⟩ := entry
    by_cases howner : owner = tenant
    · simp [howner]
    · simp [howner]

private theorem visible_congr {tenant : Option String} {table₁ table₂ : Table}
    (h : AgreeOn tenant table₁ table₂) : visible table₁ tenant = visible table₂ tenant := by
  funext name
  apply Option.ext
  intro binding
  rw [visible_eq_some, visible_eq_some]
  exact h name ⟨tenant, binding⟩ rfl

private theorem agreeOn_erase {table : Table} {tenant : Option String} {name : String}
    {entry : TenantResourceBinding} (hentry : table name = some entry)
    (hforeign : entry.tenant ≠ tenant) :
    AgreeOn tenant table (Function.update table name none) := by
  intro other bound howner
  by_cases hname : other = name
  · subst hname
    rw [hentry, Function.update_self]
    constructor
    · intro h
      exact absurd ((Option.some.inj h) ▸ howner) hforeign
    · intro h
      cases h
  · rw [Function.update_of_ne hname]

theorem pick_some {α : Type} (table : Table) (tenant : Option String) (name kind : String)
    (extract : ResourceBinding → Option α) :
    pick table tenant (some name) kind extract =
      match visible table tenant name with
      | none => .error (.notFound name)
      | some binding =>
        match extract binding with
        | some config => .ok (some config)
        | none => .error (.kindMismatch name kind) := by
  unfold pick visible
  cases hentry : table name with
  | none => simp only [hentry]
  | some entry =>
    by_cases howner : entry.tenant = tenant
    · cases hextract : extract entry.binding with
      | none => simp [hentry, howner, hextract]
      | some config => simp [hentry, howner, hextract]
    · simp only [hentry, howner, ne_eq, not_false_eq_true, if_false, if_true]

private theorem pick_congr {α : Type} {table₁ table₂ : Table} {tenant : Option String}
    (h : visible table₁ tenant = visible table₂ tenant) (name : Option String) (kind : String)
    (extract : ResourceBinding → Option α) :
    pick table₁ tenant name kind extract = pick table₂ tenant name kind extract := by
  cases name with
  | none => rfl
  | some name => rw [pick_some, pick_some, h]

private theorem resolve_congr {table₁ table₂ : Table} {init : WireInit}
    (h : visible table₁ init.tenant = visible table₂ init.tenant) :
    resolve table₁ init = resolve table₂ init := by
  unfold resolve
  simp only [pick_congr h]

private theorem serve_congr (lib : Lib) {table₁ table₂ : Table} {init : WireInit}
    (h : visible table₁ init.tenant = visible table₂ init.tenant) (ceilingMs : UInt64)
    (breaker : Bool) (authenticator : Authenticator) (input : Input) :
    serve lib ⟨table₁, ceilingMs, breaker⟩ authenticator (.ok (.init init) :: input) =
      serve lib ⟨table₂, ceilingMs, breaker⟩ authenticator (.ok (.init init) :: input) := by
  have hauth : serveAuthenticated lib ⟨table₁, ceilingMs, breaker⟩ init input =
      serveAuthenticated lib ⟨table₂, ceilingMs, breaker⟩ init input := by
    unfold serveAuthenticated
    rw [resolve_congr h]
  unfold serve readFrame
  simp only [bind_assoc, pure_bind, hauth]

/-- Non-interference: entries of other tenants change neither what a session's names
resolve to nor anything the session does, whatever its environment answers. In particular
a name of another tenant might as well be absent. -/
theorem session_noninterference (lib : Lib) (table₁ table₂ : Table) (ceilingMs : UInt64)
    (breaker : Bool) (authenticator : Authenticator) (init : WireInit) (input : Input)
    (h : AgreeOn init.tenant table₁ table₂) :
    resolve table₁ init = resolve table₂ init ∧
      serve lib ⟨table₁, ceilingMs, breaker⟩ authenticator (.ok (.init init) :: input) =
        serve lib ⟨table₂, ceilingMs, breaker⟩ authenticator (.ok (.init init) :: input) ∧
      ∀ name entry, table₁ name = some entry → entry.tenant ≠ init.tenant →
        resolve table₁ init = resolve (Function.update table₁ name none) init ∧
        serve lib ⟨table₁, ceilingMs, breaker⟩ authenticator (.ok (.init init) :: input) =
          serve lib ⟨Function.update table₁ name none, ceilingMs, breaker⟩ authenticator
            (.ok (.init init) :: input) := by
  have hview := visible_congr h
  refine ⟨resolve_congr hview, serve_congr lib hview ceilingMs breaker authenticator input, ?_⟩
  intro name entry hentry hforeign
  have hgone := visible_congr (agreeOn_erase hentry hforeign)
  exact ⟨resolve_congr hgone, serve_congr lib hgone ceilingMs breaker authenticator input⟩

/-- A cache bound for tenant `b` may come or go without tenant `a` noticing. -/
theorem session_noninterference_foreign_cache :
    let init := { WireInit.empty with redis := some "cache", tenant := some "a" }
    let cache : Table := fun name =>
      if name = "cache" then some ⟨some "b", .redis ⟨"redis://b", 1000⟩⟩ else none
    resolve cache init = resolve (fun _ => none) init :=
  (session_noninterference Lib.rejecting _ (fun _ => none) 0 false .none
    { WireInit.empty with redis := some "cache", tenant := some "a" } [] (by
      intro name entry howner
      by_cases hname : name = "cache"
      · simp only [hname, if_true, Option.some.injEq, reduceCtorEq, iff_false]
        rintro rfl
        revert howner
        decide
      · simp [hname])).1

end Fabricd

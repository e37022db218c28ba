import Fabricd.Framework.Stages

/-!
# Deliveries

The items of a plan are offered one by one, each once, up to the first that is refused.
-/

namespace Framework

open Prog

variable {α β : Type}

/-- What has been offered of a plan, each item with whether it was taken. -/
inductive Offered : List α → List (α × Bool) → Prop where
  | rest (plan : List α) : Offered plan []
  | refused (a : α) (plan : List α) : Offered (a :: plan) [(a, false)]
  | taken {plan : List α} {offers : List (α × Bool)} (a : α) (h : Offered plan offers) :
      Offered (a :: plan) ((a, true) :: offers)

def allTaken (plan : List α) : List (α × Bool) := plan.map fun a => (a, true)

/-- No item is offered out of turn, twice or unplanned. -/
theorem Offered.items {plan : List α} {offers : List (α × Bool)} (h : Offered plan offers) :
    offers.map Prod.fst <+: plan := by
  induction h with
  | rest plan => exact List.nil_prefix
  | refused a plan => exact List.prefix_append [a] plan
  | taken a h ih => exact List.cons_prefix_cons.mpr ⟨rfl, ih⟩

/-! ## Requests a monitor overlooks -/

variable {S : Sig}

/-- A request that is always allowed and does not move the monitor. -/
def Monitor.Overlooks {σ : Type} (M : Monitor S σ) (op : S.Op) : Prop :=
  ∀ s ans, M.ok s ⟨op, ans⟩ ∧ M.next s ⟨op, ans⟩ = s

theorem Prog.Sat.overlooked {σ : Type} {M : Monitor S σ} {T : β → Prop} {p : Prog S β}
    (h : Sat M.Overlooks T p) (s : σ) : Meets M (fun s' b => s' = s ∧ T b) s p :=
  Sat.meets h fun _ hop ans => hop s ans

theorem Prog.Only.overlooked_bind {σ γ : Type} {M : Monitor S σ} {Q : σ → γ → Prop}
    {p : Prog S β} {f : β → Prog S γ} {s : σ} (h : Only M.Overlooks p)
    (hf : ∀ b, Meets M Q s (f b)) : Meets M Q s (p >>= f) := by
  refine (Sat.overlooked h s).bind ?_
  rintro _ b ⟨rfl, -⟩
  exact hf b

/-! ## Programs that deliver -/

def offers (offer : Event S → Option (α × Bool)) (es : List (Event S)) : List (α × Bool) :=
  es.filterMap offer

section

variable (offer : Event S → Option (α × Bool))

@[simp] theorem offers_nil : offers offer [] = [] := rfl

@[simp] theorem offers_append (es fs : List (Event S)) :
    offers offer (es ++ fs) = offers offer es ++ offers offer fs :=
  List.filterMap_append

/-- The monitor that knows what is still to be offered, and whether there was a refusal. -/
def delivery : Monitor S (Option (List α)) where
  ok left e := ∀ a taken, offer e = some (a, taken) → ∃ rest, left = some (a :: rest)
  next left e := match offer e with
    | none => left
    | some (_, taken) => if taken then left.map List.tail else none

variable {offer}

/-- A run that has met a refusal offers nothing more. -/
theorem delivery_over {es : List (Event S)} (h : (delivery offer).Accepts none es) :
    offers offer es = [] ∧ (delivery offer).after none es = none := by
  induction es with
  | nil => exact ⟨rfl, rfl⟩
  | cons e es ih =>
    obtain ⟨hok, hrest⟩ := h
    cases hoffer : offer e with
    | some given =>
      obtain ⟨a, taken⟩ := given
      obtain ⟨rest, hleft⟩ := hok a taken hoffer
      cases hleft
    | none =>
      have hstay : (delivery offer).next none e = none := by simp [delivery, hoffer]
      rw [hstay] at hrest
      have hsame : offers offer (e :: es) = offers offer es := List.filterMap_cons_none hoffer
      rw [hsame, Monitor.after_cons, hstay]
      exact ih hrest

/-- The run lemma: an accepted run offers the plan, and all of it once nothing is left. -/
theorem delivery_offered {plan : List α} {es : List (Event S)}
    (h : (delivery offer).Accepts (some plan) es) :
    Offered plan (offers offer es) ∧
      ((delivery offer).after (some plan) es = some [] ↔ offers offer es = allTaken plan) := by
  induction es generalizing plan with
  | nil =>
    refine ⟨.rest plan, ?_⟩
    cases plan <;> simp [allTaken]
  | cons e es ih =>
    obtain ⟨hok, hrest⟩ := h
    rw [Monitor.after_cons]
    cases hoffer : offer e with
    | none =>
      have hstay : (delivery offer).next (some plan) e = some plan := by simp [delivery, hoffer]
      have hsame : offers offer (e :: es) = offers offer es := List.filterMap_cons_none hoffer
      rw [hstay] at hrest ⊢
      rw [hsame]
      exact ih hrest
    | some given =>
      obtain ⟨a, taken⟩ := given
      obtain ⟨rest, hplan⟩ := hok a taken hoffer
      cases hplan
      have hmore : offers offer (e :: es) = (a, taken) :: offers offer es :=
        List.filterMap_cons_some hoffer
      rw [hmore]
      cases taken with
      | true =>
        have hmove : (delivery offer).next (some (a :: rest)) e = some rest := by
          simp [delivery, hoffer]
        rw [hmove] at hrest ⊢
        obtain ⟨hoffered, hall⟩ := ih hrest
        refine ⟨.taken a hoffered, hall.trans ?_⟩
        simp [allTaken]
      | false =>
        have hmove : (delivery offer).next (some (a :: rest)) e = none := by
          simp [delivery, hoffer]
        rw [hmove] at hrest ⊢
        obtain ⟨hnothing, hover⟩ := delivery_over hrest
        rw [hnothing, hover]
        refine ⟨.refused a rest, ?_⟩
        simp [allTaken]

theorem delivery_overlooks {op : S.Op} (h : ∀ ans, offer ⟨op, ans⟩ = none) :
    (delivery offer).Overlooks op := by
  refine fun left ans => ⟨fun a taken hoffer => ?_, ?_⟩
  · rw [h ans] at hoffer
    cases hoffer
  · simp [delivery, h ans]

theorem Prog.perform_quiet {op : S.Op} (h : ∀ ans, offer ⟨op, ans⟩ = none)
    (left : Option (List α)) :
    Meets (delivery offer) (fun left' _ => left' = left) left (perform op) :=
  fun ans => delivery_overlooks h left ans

theorem Prog.perform_offer {op : S.Op} {a : α} {rest : List α} (took : S.Ans op → Bool)
    (h : ∀ ans, offer ⟨op, ans⟩ = some (a, took ans)) :
    Meets (delivery offer) (fun left ans => left = if took ans then some rest else none)
      (some (a :: rest)) (perform op) := by
  intro ans
  constructor
  · intro b taken hoffer
    rw [h ans] at hoffer
    cases hoffer
    exact ⟨rest, rfl⟩
  · show (delivery offer).next (some (a :: rest)) ⟨op, ans⟩ = _
    simp [delivery, h ans]

end

/-! ## Counting -/

section

variable (offer : Event S → Option (α × Bool))

/-- The monitor that counts the offers up to a cap. -/
def tally (cap : Nat) : Monitor S Nat where
  ok n e := (offer e).isSome → n < cap
  next n e := if (offer e).isSome then n + 1 else n

variable {offer}

theorem tally_next (cap n : Nat) (e : Event S) :
    (tally offer cap).next n e = n + (offers offer [e]).length := by
  cases hoffer : offer e with
  | none => simp [tally, offers, hoffer]
  | some given => simp [tally, offers, hoffer]

theorem tally_after (cap n : Nat) (es : List (Event S)) :
    (tally offer cap).after n es = n + (offers offer es).length := by
  induction es generalizing n with
  | nil => rfl
  | cons e es ih =>
    have hsplit : offers offer (e :: es) = offers offer [e] ++ offers offer es :=
      offers_append offer [e] es
    rw [Monitor.after_cons, ih, tally_next, hsplit, List.length_append, Nat.add_assoc]

/-- The run lemma: an accepted run keeps to the cap. -/
theorem tally_capped {cap n : Nat} {es : List (Event S)} (hn : n ≤ cap)
    (h : (tally offer cap).Accepts n es) : n + (offers offer es).length ≤ cap := by
  induction es generalizing n with
  | nil => exact hn
  | cons e es ih =>
    obtain ⟨hok, hrest⟩ := h
    have hnext : (tally offer cap).next n e ≤ cap := by
      cases hoffer : offer e with
      | none => simpa [tally, hoffer] using hn
      | some given =>
        have hlt : n + 1 ≤ cap := hok (by simp [hoffer])
        simpa [tally, hoffer] using hlt
    have hcapped := ih hnext hrest
    have hsplit : offers offer (e :: es) = offers offer [e] ++ offers offer es :=
      offers_append offer [e] es
    rw [tally_next] at hcapped
    rw [hsplit, List.length_append]
    omega

theorem tally_overlooks {op : S.Op} (cap : Nat) (h : ∀ ans, offer ⟨op, ans⟩ = none) :
    (tally offer cap).Overlooks op := by
  refine fun n ans => ⟨fun hoffer => ?_, ?_⟩
  · rw [h ans] at hoffer
    cases hoffer
  · simp [tally, h ans]

theorem Prog.perform_counted {op : S.Op} {cap n : Nat} (h : n < cap) :
    Meets (tally offer cap) (fun n' _ => n' ≤ n + 1) n (perform op) := by
  refine fun ans => ⟨fun _ => h, ?_⟩
  show (tally offer cap).next n ⟨op, ans⟩ ≤ n + 1
  rw [tally_next]
  have hone : (offers offer [(⟨op, ans⟩ : Event S)]).length ≤ 1 := List.length_filterMap_le ..
  omega

end

/-! ## Reports -/

/-- What a result tells of a plan: after a success all of it was taken, and there was one if
`acts`; after an error that is so only if `spares`. -/
structure Tells {ε : Type} (plan : List α) (acts spares taken : Prop) (result : Except ε β) :
    Prop where
  success : result.isOk = true → taken ∧ (acts → plan ≠ [])
  failure : result.isOk = false → plan ≠ [] → taken → spares

namespace Tells

variable {ε : Type} {plan : List α} {acts spares : Prop}

/-- An error before anything was offered. -/
theorem unsent (err : ε) :
    Tells plan acts spares (some plan = some []) (.error err : Except ε β) where
  success h := by cases h
  failure _ hplan htaken := absurd (Option.some.inj htaken) hplan

/-- An error after a refusal. -/
theorem stopped (err : ε) :
    Tells plan acts spares (none = some ([] : List α)) (.error err : Except ε β) where
  success h := by cases h
  failure _ _ htaken := by cases htaken

theorem sent (hplan : acts → plan ≠ []) (b : β) :
    Tells plan acts spares (some ([] : List α) = some []) (.ok b : Except ε β) where
  success _ := ⟨rfl, hplan⟩
  failure h := by cases h

theorem answered {a : α} (r : Except ε β) :
    Tells [a] acts spares ((if r.isOk then some ([] : List α) else none) = some []) r := by
  cases r with
  | error err => exact stopped err
  | ok b => exact sent (fun _ => List.cons_ne_nil a []) b

theorem idle (hacts : ¬acts) (r : Except ε β) :
    Tells ([] : List α) acts spares (some ([] : List α) = some []) r where
  success _ := ⟨rfl, fun h => absurd h hacts⟩
  failure _ hplan := absurd rfl hplan

theorem of_isOk {ε' γ : Type} {taken : Prop} {r : Except ε β} {r' : Except ε' γ}
    (h : Tells plan acts spares taken r) (hsame : r'.isOk = r.isOk) :
    Tells plan acts spares taken r' := by
  obtain ⟨hsuccess, hfailure⟩ := h
  constructor
  · rwa [hsame]
  · rwa [hsame]

end Tells

end Framework

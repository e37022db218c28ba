import Fabricd.Backends.Mongo
import Fabricd.Backends.Rows

/-!
# Capped reads

A cursor drained step by step against the whole list cut at the cap, which is what the
rows of a query get.
-/

namespace Fabricd.Mongo

open Framework Mongodb Db

/-- The first values of a list up to a cap, and whether some are left out. -/
def capped {α : Type} (f : α → Json) (xs : List α) (cap : Nat) : List Json × Bool :=
  ((xs.take cap).map f, decide (cap < xs.length))

/-! ## A cursor and its failures -/

/-- A step of reading a cursor, by the document it is for. -/
inductive CursorStep where
  | advance (i : Nat)
  | deserialize (i : Nat)
  deriving DecidableEq

/-- The steps a read capped at `cap` documents may take. -/
def CursorStep.within (cap : Nat) : CursorStep → Bool
  | advance i => i ≤ cap
  | deserialize i => i < cap

/-- The steps that read the last `k` documents from the `i`-th on. -/
def stepsFrom (i : Nat) : Nat → List CursorStep
  | 0 => [.advance i]
  | k + 1 => .advance i :: .deserialize i :: stepsFrom (i + 1) k

/-- A finite cursor. An advance that fails does so with an error of the driver, or
because the timer elapsed first. -/
structure Cursor where
  docs : List Document
  advanceFailure : Nat → Option (Option DriverError)
  readFailure : Nat → Option DriverError

namespace Cursor

/-- The error a step ends the read with, if it fails. -/
def failure (cursor : Cursor) : CursorStep → Option MongoError
  | .advance i => (cursor.advanceFailure i).map fun
    | some err => .fromDriver err
    | none => .timeout
  | .deserialize i => (cursor.readFailure i).map .fromDriver

/-- The first step of an uncapped read that fails, with its error. -/
def firstFailure (cursor : Cursor) (i : Nat) : Option (CursorStep × MongoError) :=
  (stepsFrom i (cursor.docs.length - i)).findSome? fun step =>
    (cursor.failure step).map fun err => (step, err)

/-- The driver serving the cursor: its world counts the advances made. -/
def driver (cursor : Cursor) : Env Fx Nat := fun taken op =>
  match op with
  | ⟨.mongo (.advance _ _), _⟩ =>
    (match cursor.advanceFailure taken with
      | some (some err) => some (.error err)
      | some none => none
      | none => some (.ok (decide (taken < cursor.docs.length))), taken + 1)
  | ⟨.mongo (.deserializeCurrent _ _), _⟩ =>
    (match cursor.readFailure (taken - 1) with
      | some err => .error err
      | none => .ok (cursor.docs.getD (taken - 1) []), taken)
  | ⟨call, _⟩ => ((default : call.Ans), taken)

end Cursor

def isAdvance (event : Event Fx) : Bool :=
  match event.op.call with
  | .mongo (.advance _ _) => true
  | _ => false

def isDeserialize (event : Event Fx) : Bool :=
  match event.op.call with
  | .mongo (.deserializeCurrent _ _) => true
  | _ => false

/-! ## One turn of the loop -/

section Drain

variable (lib : Lib) (budget : Duration) (client : ClientId) (id : CursorId)

private theorem drainDocs_run (room : Nat) (docs : List Json) :
    (drainDocs lib budget client id room docs).run =
      askWithin budget (.mongo (.advance client id)) >>= fun
        | some (.ok true) =>
          match room with
          | 0 => .ret (.ok (docs, true))
          | room + 1 =>
            askWithin budget (.mongo (.deserializeCurrent client id)) >>= fun
              | .ok doc =>
                (drainDocs lib budget client id room (docs ++ [documentToJson lib doc])).run
              | .error err => .ret (.error (.fromDriver err))
        | some (.ok false) => .ret (.ok (docs, false))
        | some (.error err) => .ret (.error (.fromDriver err))
        | none => .ret (.error .timeout) := by
  cases room with
  | zero =>
    refine congrArg (Prog.act _) (funext fun answer => ?_)
    rcases answer with _ | (err | more)
    · rfl
    · rfl
    · cases more <;> rfl
  | succ room =>
    refine congrArg (Prog.act _) (funext fun answer => ?_)
    rcases answer with _ | (err | more)
    · rfl
    · rfl
    · cases more with
      | false => rfl
      | true =>
        refine congrArg (Prog.act _) (funext fun read => ?_)
        cases read <;> rfl

/-- In any environment the loop makes at most one advance more than it reads documents. -/
theorem drainDocs_bounds {W : Type} (E : Env Fx W) (w : W) (room : Nat) (docs : List Json) :
    let ran := Prog.run E w (drainDocs lib budget client id room docs).run
    ran.events.countP isAdvance ≤ room + 1 ∧ ran.events.countP isDeserialize ≤ room := by
  induction room generalizing w docs with
  | zero =>
    rw [drainDocs_run, run_askWithin]
    generalize (E w ⟨.mongo (.advance client id), some budget⟩ :
      Option (Except DriverError Bool) × W) = answered
    obtain ⟨_ | (err | more), w'⟩ := answered
    · exact ⟨le_rfl, le_rfl⟩
    · exact ⟨le_rfl, le_rfl⟩
    · cases more <;> exact ⟨le_rfl, le_rfl⟩
  | succ room ih =>
    rw [drainDocs_run, run_askWithin]
    generalize (E w ⟨.mongo (.advance client id), some budget⟩ :
      Option (Except DriverError Bool) × W) = answered
    obtain ⟨_ | (err | more), w'⟩ := answered
    · exact ⟨Nat.le_add_left _ _, Nat.zero_le _⟩
    · exact ⟨Nat.le_add_left _ _, Nat.zero_le _⟩
    · cases more with
      | false => exact ⟨Nat.le_add_left _ _, Nat.zero_le _⟩
      | true =>
        dsimp only
        rw [run_askWithin]
        generalize (E w' ⟨.mongo (.deserializeCurrent client id), some budget⟩ :
          Except DriverError Document × W) = read
        obtain ⟨err | doc, w''⟩ := read
        · exact ⟨Nat.le_add_left _ _, Nat.le_add_left _ _⟩
        · obtain ⟨hadvances, hreads⟩ := ih w'' (docs ++ [documentToJson lib doc])
          simp only [List.countP_cons, isAdvance, isDeserialize]
          exact ⟨Nat.succ_le_succ hadvances, Nat.succ_le_succ hreads⟩

end Drain

/-! ## The whole read -/

private theorem within_stepsFrom {cap j k : Nat} (h : cap < j) :
    ∀ step ∈ stepsFrom j k, step.within cap = false := by
  induction k generalizing j with
  | zero =>
    intro step hstep
    obtain rfl := List.mem_singleton.mp hstep
    exact decide_eq_false (by omega)
  | succ k ih =>
    intro step hstep
    rw [stepsFrom, List.mem_cons, List.mem_cons] at hstep
    rcases hstep with rfl | rfl | hstep
    · exact decide_eq_false (by omega)
    · exact decide_eq_false (by omega)
    · exact ih (by omega) step hstep

namespace Cursor

/-- The failure a capped read comes to, if it comes to one. -/
def stopsAt (cursor : Cursor) (i cap : Nat) : Option (CursorStep × MongoError) :=
  (cursor.firstFailure i).filter fun failed => failed.1.within cap

section

variable {cursor : Cursor} {i : Nat}

private theorem failure_passed (h : cursor.advanceFailure i = none) :
    cursor.failure (.advance i) = none := by
  rw [failure, h]
  rfl

private theorem failure_elapsed (h : cursor.advanceFailure i = some none) :
    cursor.failure (.advance i) = some .timeout := by
  rw [failure, h]
  rfl

private theorem failure_refused {err : DriverError}
    (h : cursor.advanceFailure i = some (some err)) :
    cursor.failure (.advance i) = some (.fromDriver err) := by
  rw [failure, h]
  rfl

private theorem stopsAt_advance {err : MongoError} {cap : Nat} (hcap : i ≤ cap)
    (h : cursor.failure (.advance i) = some err) : cursor.stopsAt i cap = some (.advance i, err) := by
  have hfirst : cursor.firstFailure i = some (.advance i, err) := by
    unfold firstFailure
    cases cursor.docs.length - i <;> simp [stepsFrom, h]
  simp [stopsAt, hfirst, CursorStep.within, hcap]

private theorem firstFailure_end (h : cursor.failure (.advance i) = none)
    (hi : cursor.docs.length ≤ i) :
    cursor.firstFailure i = none := by
  have hnone : cursor.docs.length - i = 0 := by omega
  simp [firstFailure, hnone, stepsFrom, h]

private theorem stopsAt_deserialize {err : MongoError} {cap : Nat} (hcap : i < cap)
    (h : cursor.failure (.advance i) = none) (hi : i < cursor.docs.length)
    (hread : cursor.failure (.deserialize i) = some err) :
    cursor.stopsAt i cap = some (.deserialize i, err) := by
  have hsome : cursor.docs.length - i = cursor.docs.length - (i + 1) + 1 := by omega
  have hfirst : cursor.firstFailure i = some (.deserialize i, err) := by
    simp [firstFailure, hsome, stepsFrom, h, hread]
  simp [stopsAt, hfirst, CursorStep.within, hcap]

private theorem firstFailure_next (h : cursor.failure (.advance i) = none)
    (hi : i < cursor.docs.length) (hread : cursor.failure (.deserialize i) = none) :
    cursor.firstFailure i = cursor.firstFailure (i + 1) := by
  have hsome : cursor.docs.length - i = cursor.docs.length - (i + 1) + 1 := by omega
  simp [firstFailure, hsome, stepsFrom, h, hread]

private theorem stopsAt_excess (h : cursor.failure (.advance i) = none)
    (hi : i < cursor.docs.length) :
    cursor.stopsAt i i = none := by
  have hsome : cursor.docs.length - i = cursor.docs.length - (i + 1) + 1 := by omega
  have hlater : ∀ step ∈ CursorStep.deserialize i :: stepsFrom (i + 1) (cursor.docs.length - (i + 1)),
      step.within i = false := by
    intro step hstep
    rcases List.mem_cons.mp hstep with rfl | hstep
    · exact decide_eq_false (by omega)
    · exact within_stepsFrom (by omega) step hstep
  unfold stopsAt firstFailure
  rw [Option.filter_eq_none_iff, hsome, stepsFrom, List.findSome?_cons, h]
  intro failed hfailed
  obtain ⟨step, hstep, herr⟩ := List.exists_of_findSome?_eq_some hfailed
  obtain ⟨err, -, rfl⟩ := Option.map_eq_some_iff.mp herr
  simp [hlater step hstep]

end

/-- What the loop returns from the `i`-th document on with room for `room` more. -/
theorem drainDocs_value (cursor : Cursor) (lib : Lib) (budget : Duration) (client : ClientId)
    (id : CursorId) (room i : Nat) (docs : List Json) (hi : i ≤ cursor.docs.length) :
    (Prog.run cursor.driver i (drainDocs lib budget client id room docs).run).value =
      match cursor.stopsAt i (i + room) with
      | some failed => .error failed.2
      | none => .ok (docs ++ ((cursor.docs.drop i).take room).map (documentToJson lib),
          decide (i + room < cursor.docs.length)) := by
  induction room generalizing i docs with
  | zero =>
    rw [drainDocs_run, run_askWithin]
    cases hfail : cursor.advanceFailure i with
    | some failed =>
      cases failed with
      | none => simp [driver, hfail, stopsAt_advance le_rfl (failure_elapsed hfail)]
      | some err => simp [driver, hfail, stopsAt_advance le_rfl (failure_refused hfail)]
    | none =>
      have hpass := failure_passed hfail
      by_cases hmore : i < cursor.docs.length
      · simp [driver, hfail, hmore, stopsAt_excess hpass hmore]
      · simp [driver, hfail, hmore, stopsAt, firstFailure_end hpass (by omega)]
  | succ room ih =>
    have hcap : i < i + (room + 1) := by omega
    rw [drainDocs_run, run_askWithin]
    cases hfail : cursor.advanceFailure i with
    | some failed =>
      cases failed with
      | none => simp [driver, hfail, stopsAt_advance hcap.le (failure_elapsed hfail)]
      | some err => simp [driver, hfail, stopsAt_advance hcap.le (failure_refused hfail)]
    | none =>
      have hpass := failure_passed hfail
      by_cases hmore : i < cursor.docs.length
      · cases hread : cursor.readFailure i with
        | some err =>
          have hstop := stopsAt_deserialize hcap hpass hmore
            (congrArg (Option.map MongoError.fromDriver) hread)
          simp [driver, hfail, hmore, run_askWithin, hread, hstop]
        | none =>
          -- the document goes in, and the rest of the cursor is drained with one room less
          have hnext : cursor.stopsAt i (i + (room + 1)) =
              cursor.stopsAt (i + 1) (i + 1 + room) := by
            unfold stopsAt
            rw [firstFailure_next hpass hmore (congrArg (Option.map MongoError.fromDriver) hread),
              Nat.add_assoc i 1 room, Nat.add_comm 1 room]
          have hdrop : cursor.docs.drop i = cursor.docs[i] :: cursor.docs.drop (i + 1) :=
            List.drop_eq_getElem_cons hmore
          have hsum : i + (room + 1) = i + 1 + room := by omega
          have hrest := ih (i + 1) (docs ++ [documentToJson lib cursor.docs[i]]) hmore
          rw [hnext, hdrop, hsum, List.take_succ_cons, List.map_cons, List.append_cons]
          rw [← hrest]
          simp [driver, hfail, hmore, run_askWithin, hread]
      · have hshort : cursor.docs.length ≤ i := by omega
        have hover : ¬ i + (room + 1) < cursor.docs.length := by omega
        simp [driver, hfail, hmore, stopsAt, firstFailure_end hpass hshort, hshort, hover]

end Cursor

def drainedOutcome (lib : Lib) (drained : List Json × Bool) : MongoOutcome where
  json := lib.display (.object
    [("docs", .array drained.1), ("count", .ofUsize drained.1.length), ("truncated", .bool drained.2)])
  docsReturned := drained.1.length
  docsAffected := 0
  truncated := drained.2

private theorem drainCursor_run {W : Type} (E : Env Fx W) (w : W) (lib : Lib) (budget : Duration)
    (client : ClientId) (id : CursorId) (maxDocs : Nat) :
    Prog.run E w (drainCursor lib budget client id maxDocs).run =
      { Prog.run E w (drainDocs lib budget client id maxDocs []).run with
        value := (Prog.run E w (drainDocs lib budget client id maxDocs []).run).value.map
          (drainedOutcome lib) } := by
  have hpack : (drainCursor lib budget client id maxDocs).run =
      (drainDocs lib budget client id maxDocs []).run >>= fun r => pure (r.map (drainedOutcome lib)) := by
    refine congrArg (fun k => (drainDocs lib budget client id maxDocs []).run >>= k)
      (funext fun r => ?_)
    cases r <;> rfl
  rw [hpack, Prog.run_bind]
  simp

/-- A cursor is read up to the cap as the rows of a query are: its first documents and
whether there are more. The read fails exactly when the first failing step is one it
takes, and what fails after the first document too many is never seen. -/
theorem drainCursor_capped (cursor : Cursor) (lib : Lib) (budget : Duration) (client : ClientId)
    (id : CursorId) (maxDocs : Nat) :
    let ran := Prog.run cursor.driver 0 (drainCursor lib budget client id maxDocs).run
    let full := drainedOutcome lib (capped (documentToJson lib) cursor.docs maxDocs)
    (cursor.firstFailure 0 = none → ran.value = .ok full) ∧
      full.docsReturned = min cursor.docs.length maxDocs ∧
      (full.truncated ↔ maxDocs < cursor.docs.length) ∧
      (∀ rows, rowsToJson lib rows maxDocs = capped (rowToJson lib) rows maxDocs) ∧
      ran.events.countP isAdvance ≤ maxDocs + 1 ∧
      ran.events.countP isDeserialize ≤ maxDocs ∧
      ((∃ err, ran.value = .error err) ↔
        ∃ step err, cursor.firstFailure 0 = some (step, err) ∧ step.within maxDocs) ∧
      ((∀ err, ran.value ≠ .error err) → ran.value = .ok full) := by
  intro ran full
  have hran := drainCursor_run cursor.driver 0 lib budget client id maxDocs
  have hvalue : ran.value = match cursor.stopsAt 0 maxDocs with
      | some failed => .error failed.2
      | none => .ok full := by
    have hdrained := cursor.drainDocs_value lib budget client id maxDocs 0 [] (Nat.zero_le _)
    rw [Nat.zero_add] at hdrained
    simp only [ran, hran, hdrained]
    cases cursor.stopsAt 0 maxDocs <;> rfl
  have hevents : ran.events = (Prog.run cursor.driver 0
      (drainDocs lib budget client id maxDocs []).run).events :=
    congrArg Outcome.events hran
  obtain ⟨hadvances, hreads⟩ := drainDocs_bounds lib budget client id cursor.driver 0 maxDocs []
  refine ⟨fun hclean => ?_, ?_, by simp [full, drainedOutcome, capped], fun rows => ?_,
    hevents ▸ hadvances, hevents ▸ hreads, ?_, fun hok => ?_⟩
  · have hnone : cursor.stopsAt 0 maxDocs = none := by rw [Cursor.stopsAt, hclean, Option.filter_none]
    rw [hvalue, hnone]
  · simp [full, drainedOutcome, capped, Nat.min_comm]
  · exact rowsToJson_rows lib rows maxDocs
  · rw [hvalue]
    constructor
    · rintro ⟨err, herr⟩
      cases hstop : cursor.stopsAt 0 maxDocs with
      | none =>
        rw [hstop] at herr
        cases herr
      | some failed =>
        obtain ⟨hfirst, hwithin⟩ := Option.filter_eq_some_iff.mp hstop
        exact ⟨failed.1, failed.2, hfirst, hwithin⟩
    · rintro ⟨step, err, hfirst, hwithin⟩
      have hstop : cursor.stopsAt 0 maxDocs = some (step, err) :=
        Option.filter_eq_some_iff.mpr ⟨hfirst, hwithin⟩
      rw [hstop]
      exact ⟨err, rfl⟩
  · rw [hvalue] at hok ⊢
    cases hstop : cursor.stopsAt 0 maxDocs with
    | none => rfl
    | some failed =>
      rw [hstop] at hok
      exact absurd rfl (hok failed.2)

/-- Three documents under a cap of one: the second is not deserialized, so its failure is
not seen. -/
example : (Prog.run (Cursor.mk [[], [], []] (fun _ => none) fun i =>
      if i = 1 then some ⟨.io, "reset"⟩ else none).driver 0
    (drainDocs Lib.rejecting 0 0 0 1 []).run).value = .ok ([.object []], true) := rfl

end Fabricd.Mongo

import Fabricd.Framework.Prog

/-!
# Following redirects

A client sends a request; an answer may send it on to another, up to a number of times. A hop
is one request with the answer to it.
-/

namespace Framework

/-- When an answer sends the client on, and where to, or the error that ends it there; and the
error of being sent on too often. -/
structure Redirects (Rq Rs ε : Type) where
  next : Rq → Rs → Option (Except ε Rq)
  tooMany : Rq → ε

/-- The signature of single requests. -/
def Hops (Rq Rs ε : Type) : Sig where
  Op := Rq
  Ans _ := Except ε Rs

namespace Redirects

variable {Rq Rs ε : Type} (R : Redirects Rq Rs ε)

/-- An answer that stands, or what the client does where it is sent on to. -/
def settle (request : Rq) (onward : Except ε Rq → Prog (Hops Rq Rs ε) (Except ε Rs)) :
    Except ε Rs → Prog (Hops Rq Rs ε) (Except ε Rs)
  | .error err => .ret (.error err)
  | .ok reply =>
    match R.next request reply with
    | none => .ret (.ok reply)
    | some next => onward next

/-- Sends a request and is sent on at most `limit` times. -/
def follow : Nat → Rq → Prog (Hops Rq Rs ε) (Except ε Rs)
  | 0, request => .act (S := Hops Rq Rs ε) request
      (R.settle request fun _ => .ret (.error (R.tooMany request)))
  | limit + 1, request => .act (S := Hops Rq Rs ε) request
      (R.settle request fun
        | .error err => .ret (.error err)
        | .ok request' => follow limit request')

/-- The hops of a request and what comes of it. -/
inductive Followed : Nat → Rq → List (Event (Hops Rq Rs ε)) → Except ε Rs → Prop where
  | failed {limit : Nat} {request : Rq} (err : ε) :
      Followed limit request [⟨request, .error err⟩] (.error err)
  | settled {limit : Nat} {request : Rq} {reply : Rs} (h : R.next request reply = none) :
      Followed limit request [⟨request, .ok reply⟩] (.ok reply)
  | exceeded {request : Rq} {reply : Rs} (h : R.next request reply ≠ none) :
      Followed 0 request [⟨request, .ok reply⟩] (.error (R.tooMany request))
  | refused {limit : Nat} {request : Rq} {reply : Rs} {err : ε}
      (h : R.next request reply = some (.error err)) :
      Followed (limit + 1) request [⟨request, .ok reply⟩] (.error err)
  | hop {limit : Nat} {request request' : Rq} {reply : Rs} {hops : List (Event (Hops Rq Rs ε))}
      {answer : Except ε Rs} (h : R.next request reply = some (.ok request'))
      (hrest : Followed limit request' hops answer) :
      Followed (limit + 1) request (⟨request, .ok reply⟩ :: hops) answer

/-- The requests that the answers of some hops lead to, from a first one. -/
inductive Leads (hops : List (Event (Hops Rq Rs ε))) (first : Rq) : Rq → Prop where
  | start : Leads hops first first
  | onward {request request' : Rq} {reply : Rs} (hlead : Leads hops first request)
      (hanswer : ⟨request, .ok reply⟩ ∈ hops) (hnext : R.next request reply = some (.ok request')) :
      Leads hops first request'

variable {R}

theorem settle_none {request : Rq} {reply : Rs}
    {onward : Except ε Rq → Prog (Hops Rq Rs ε) (Except ε Rs)} (h : R.next request reply = none) :
    R.settle request onward (.ok reply) = .ret (.ok reply) := by
  simp only [settle, h]

theorem settle_some {request : Rq} {reply : Rs} {next : Except ε Rq}
    {onward : Except ε Rq → Prog (Hops Rq Rs ε) (Except ε Rs)}
    (h : R.next request reply = some next) :
    R.settle request onward (.ok reply) = onward next := by
  simp only [settle, h]

/-! ## Complete runs -/

theorem steps_settle {request : Rq} {onward : Except ε Rq → Prog (Hops Rq Rs ε) (Except ε Rs)}
    {hops : List (Event (Hops Rq Rs ε))} {answer : Except ε Rs}
    (h : Prog.Steps (.act (S := Hops Rq Rs ε) request (R.settle request onward)) hops (.ret answer)) :
    (∃ err, hops = [⟨request, .error err⟩] ∧ answer = .error err) ∨
      (∃ reply, R.next request reply = none ∧ hops = [⟨request, .ok reply⟩] ∧ answer = .ok reply) ∨
      ∃ reply next rest, R.next request reply = some next ∧ hops = ⟨request, .ok reply⟩ :: rest ∧
        Prog.Steps (onward next) rest (.ret answer) := by
  cases h with
  | @act _ _ first hops _ hrest =>
    cases first with
    | error err =>
      obtain ⟨rfl, hret⟩ := Prog.steps_ret hrest
      cases hret
      exact .inl ⟨err, rfl, rfl⟩
    | ok reply =>
      cases hnext : R.next request reply with
      | none =>
        rw [settle_none hnext] at hrest
        obtain ⟨rfl, hret⟩ := Prog.steps_ret hrest
        cases hret
        exact .inr (.inl ⟨reply, hnext, rfl, rfl⟩)
      | some next =>
        rw [settle_some hnext] at hrest
        exact .inr (.inr ⟨reply, next, hops, hnext, rfl, hrest⟩)

theorem steps_follow {limit : Nat} {request : Rq} {hops : List (Event (Hops Rq Rs ε))}
    {answer : Except ε Rs} (h : Prog.Steps (R.follow limit request) hops (.ret answer)) :
    R.Followed limit request hops answer := by
  induction limit generalizing request hops with
  | zero =>
    rcases steps_settle h with ⟨err, rfl, rfl⟩ | ⟨reply, hnext, rfl, rfl⟩ |
      ⟨reply, next, rest, hnext, rfl, hrest⟩
    · exact .failed err
    · exact .settled hnext
    · obtain ⟨rfl, hret⟩ := Prog.steps_ret hrest
      cases hret
      exact .exceeded (by simp [hnext])
  | succ limit ih =>
    rcases steps_settle h with ⟨err, rfl, rfl⟩ | ⟨reply, hnext, rfl, rfl⟩ |
      ⟨reply, next, rest, hnext, rfl, hrest⟩
    · exact .failed err
    · exact .settled hnext
    · cases next with
      | error err =>
        obtain ⟨rfl, hret⟩ := Prog.steps_ret hrest
        cases hret
        exact .refused hnext
      | ok request' => exact .hop hnext (ih hrest)

section

variable {limit : Nat} {request : Rq} {hops hops' : List (Event (Hops Rq Rs ε))}
  {answer : Except ε Rs}

theorem Leads.mono {request' : Rq} (hsub : hops ⊆ hops') (h : R.Leads hops request request') :
    R.Leads hops' request request' := by
  induction h with
  | start => exact .start
  | onward _ hanswer hnext ih => exact .onward ih (hsub hanswer) hnext

theorem Leads.trans {request' request'' : Rq} (h : R.Leads hops request request')
    (h' : R.Leads hops request' request'') : R.Leads hops request request'' := by
  induction h' with
  | start => exact h
  | onward _ hanswer hnext ih => exact .onward ih hanswer hnext

theorem Followed.direct (h : R.Followed limit request hops answer)
    (hstands : ∀ reply, ⟨request, .ok reply⟩ ∈ hops → R.next request reply = none) :
    hops = [⟨request, answer⟩] := by
  cases h with
  | failed err => rfl
  | settled hnext => rfl
  | exceeded hnext => exact absurd (hstands _ List.mem_cons_self) hnext
  | refused hnext => cases hnext.symm.trans (hstands _ List.mem_cons_self)
  | hop hnext hrest => cases hnext.symm.trans (hstands _ List.mem_cons_self)

theorem Followed.ne_nil (h : R.Followed limit request hops answer) : hops ≠ [] := by
  cases h <;> simp

/-- What redirects keep holds of every hop. -/
theorem Followed.forall_op {P : Rq → Prop}
    (hnext : ∀ request reply request', P request → R.next request reply = some (.ok request') →
      P request')
    (h : R.Followed limit request hops answer) (hfirst : P request) : ∀ e ∈ hops, P e.op := by
  induction h with
  | failed err => simpa using hfirst
  | settled h => simpa using hfirst
  | exceeded h => simpa using hfirst
  | refused h => simpa using hfirst
  | hop h _ ih =>
    intro e he
    cases he with
    | head => exact hfirst
    | tail _ he => exact ih (hnext _ _ _ hfirst h) e he

theorem Followed.leads (h : R.Followed limit request hops answer) :
    ∀ e ∈ hops, R.Leads hops request e.op := by
  induction h with
  | failed err => simpa using .start
  | settled h => simpa using .start
  | exceeded h => simpa using .start
  | refused h => simpa using .start
  | @hop limit request request' reply hops answer h _ ih =>
    intro e he
    cases he with
    | head => exact .start
    | tail _ he =>
      have honward : R.Leads (⟨request, .ok reply⟩ :: hops) request request' :=
        .onward .start List.mem_cons_self h
      exact honward.trans ((ih e he).mono (List.subset_cons_self _ _))

/-- What only an answer that stands can hold, the hops hold as the final answer does. -/
theorem Followed.filterMap {β : Type} {f : Event (Hops Rq Rs ε) → Option β} {g : Except ε Rs → Option β}
    {P : Rq → Prop}
    (hP : ∀ request reply request', P request → R.next request reply = some (.ok request') → P request')
    (hf : ∀ request answer, P request → f ⟨request, answer⟩ = g answer)
    (herror : ∀ err, g (.error err) = none)
    (hnext : ∀ request reply, R.next request reply ≠ none → g (.ok reply) = none)
    (h : R.Followed limit request hops answer) (hfirst : P request) :
    hops.filterMap f = (g answer).toList := by
  have hone : ∀ (request : Rq) (answer : Except ε Rs), P request →
      List.filterMap f [⟨request, answer⟩] = (g answer).toList := by
    intro request answer hrequest
    rw [List.filterMap_cons, hf request answer hrequest]
    cases g answer <;> rfl
  induction h with
  | failed err => exact hone _ _ hfirst
  | settled h => exact hone _ _ hfirst
  | exceeded h => rw [hone _ _ hfirst, hnext _ _ h, herror]
  | refused h => rw [hone _ _ hfirst, hnext _ _ (h ▸ Option.some_ne_none _), herror]
  | @hop limit request request' reply hops answer h _ ih =>
    have hsent : g (.ok reply) = none := hnext _ _ (h ▸ Option.some_ne_none _)
    rw [List.filterMap_cons_none ((hf _ _ hfirst).trans hsent)]
    exact ih (hP _ _ _ hfirst h)

end

/-! ## Partial runs -/

section

variable {σ : Type} {M : Monitor (Hops Rq Rs ε) σ} {Q : σ → Except ε Rs → Prop} {s : σ}

/-- The rule for one request. -/
theorem settle_meets {request : Rq} {onward : Except ε Rq → Prog (Hops Rq Rs ε) (Except ε Rs)}
    (hok : ∀ answer, M.ok s ⟨request, answer⟩)
    (herror : ∀ err, Q (M.next s ⟨request, .error err⟩) (.error err))
    (hstands : ∀ reply, R.next request reply = none → Q (M.next s ⟨request, .ok reply⟩) (.ok reply))
    (honward : ∀ reply next, R.next request reply = some next →
      Prog.Meets M Q (M.next s ⟨request, .ok reply⟩) (onward next)) :
    Prog.Meets M Q s (.act (S := Hops Rq Rs ε) request (R.settle request onward)) := by
  intro answer
  refine ⟨hok answer, ?_⟩
  cases answer with
  | error err => exact herror err
  | ok reply =>
    cases hnext : R.next request reply with
    | none =>
      rw [settle_none hnext]
      exact hstands reply hnext
    | some next =>
      rw [settle_some hnext]
      exact honward reply next hnext

/-- The rule for following redirects: an invariant of the request to send next and of how often
the client may still be sent on. -/
theorem follow_meets (I : Nat → Rq → σ → Prop)
    (hok : ∀ {limit request s}, I limit request s → ∀ answer, M.ok s ⟨request, answer⟩)
    (herror : ∀ {limit request s}, I limit request s →
      ∀ answer err, Q (M.next s ⟨request, answer⟩) (.error err))
    (hstands : ∀ {limit request s reply}, I limit request s → R.next request reply = none →
      Q (M.next s ⟨request, .ok reply⟩) (.ok reply))
    (honward : ∀ {limit request request' s reply}, I (limit + 1) request s →
      R.next request reply = some (.ok request') → I limit request' (M.next s ⟨request, .ok reply⟩))
    {limit : Nat} {request : Rq} (h : I limit request s) :
    Prog.Meets M Q s (R.follow limit request) := by
  induction limit generalizing request s with
  | zero =>
    apply settle_meets (hok h) (fun err => herror h _ err) (fun _ hnext => hstands h hnext)
    intro reply next hnext
    exact herror h _ _
  | succ limit ih =>
    apply settle_meets (hok h) (fun err => herror h _ err) (fun _ hnext => hstands h hnext)
    intro reply next hnext
    cases next with
    | error err => exact herror h _ err
    | ok request' => exact ih (honward h hnext)

end

end Redirects

end Framework

import Fabricd.Framework.Implement
import Fabricd.Framework.Redirects
import Fabricd.Framework.Sum
import Fabricd.Drivers.Services

/-!
# Redirects of the HTTP client

`reqwest` clients are built with their default redirect policy here: an answer may send the
client on to another URL, ten times at most. What a redirect makes of a request is the library's.
-/

namespace Fabricd.Http

open Framework

/-- An `Authorization` header. -/
inductive Credentials where
  | bearer (token : String)
  | basic (user password : String)
  deriving DecidableEq

/-- A request on its way to one server: a POST if it has a form, else a GET. -/
structure Sent where
  url : String
  credentials : Option Credentials
  form : Option String
  deriving DecidableEq

def Sent.get (url : String) : Sent := ⟨url, none, none⟩

/-- Nothing goes along with the URL. -/
def Sent.Bare (sent : Sent) : Prop := sent.credentials = none ∧ sent.form = none

def Request.sent : Request → Sent
  | .get url bearer => ⟨url, bearer.map .bearer, none⟩
  | .postForm url clientId clientSecret body => ⟨url, some (.basic clientId clientSecret), some body⟩

theorem Request.sent_injective : Function.Injective Request.sent := by
  intro request request' h
  cases request with
  | get url bearer =>
    cases request' with
    | get url' bearer' =>
      cases bearer <;> cases bearer' <;> simp_all [Request.sent]
    | postForm url' clientId clientSecret body => simp [Request.sent] at h
  | postForm url clientId clientSecret body =>
    cases request' with
    | get url' bearer => simp [Request.sent] at h
    | postForm url' clientId' clientSecret' body' => simp_all [Request.sent]

/-- One server's response, with its `Location` header. -/
structure Reply (R : Type) where
  response : R
  location : Option String

/-- What the client does with redirects. -/
abbrev Policy (R : Type) := Redirects Sent (Reply R) String

/-- Requests as they go to the servers. -/
abbrev Wire (R : Type) : Sig := Hops Sent (Reply R) String

/-- `redirect::Policy::default`. -/
def maxRedirects : Nat := 10

/-- Sends a request, redirects followed. -/
def deliver {R : Type} (policy : Policy R) (sent : Sent) : Prog (Wire R) (Except String R) := do
  let answer : Except String (Reply R) ← policy.follow maxRedirects sent
  return answer.map Reply.response

/-- What `reqwest` documents of redirects: they have one of five statuses, and following one adds
neither credentials nor a form. -/
structure Policy.Documented {R : Type} (status : R → UInt16) (policy : Policy R) : Prop where
  statuses : ∀ sent reply, policy.next sent reply ≠ none →
    status reply.response ∈ ([301, 302, 303, 307, 308] : List UInt16)
  bare : ∀ sent reply sent', sent.Bare → policy.next sent reply = some (.ok sent') → sent'.Bare

variable {R : Type} {policy : Policy R}

theorem steps_deliver {sent : Sent} {hops : List (Event (Wire R))} {answer : Except String R}
    (h : Prog.Steps (deliver policy sent) hops (.ret answer)) :
    ∃ reply, policy.Followed maxRedirects sent hops reply ∧ answer = reply.map Reply.response := by
  obtain ⟨es, fs, reply, rfl, hfollow, hrest⟩ := Prog.steps_bind_ret h
  obtain ⟨rfl, hret⟩ := Prog.steps_ret hrest
  cases hret
  rw [List.append_nil]
  exact ⟨reply, Redirects.steps_follow hfollow, rfl⟩

theorem deliver_meets {σ : Type} {M : Monitor (Wire R) σ} {Q : σ → Except String R → Prop} {s : σ}
    {sent : Sent}
    (h : Prog.Meets M (fun s answer => Q s (answer.map Reply.response)) s
      (policy.follow maxRedirects sent)) : Prog.Meets M Q s (deliver policy sent) :=
  h.bind fun _ _ hanswer => hanswer

/-! ## Absolute locations -/

/-- Redirects whose location is an absolute URL: credentials stay with the server they were sent
to, and only 307 and 308 keep the form. -/
def absolutePolicy (status : R → UInt16) (server : String → String) : Policy R where
  next sent reply :=
    if status reply.response ∈ ([301, 302, 303, 307, 308] : List UInt16) then
      reply.location.map fun url => .ok
        { url
          credentials := if server url = server sent.url then sent.credentials else none
          form := if status reply.response ∈ ([307, 308] : List UInt16) then sent.form else none }
    else none
  tooMany sent := s!"error following redirect for url ({sent.url})"

theorem absolutePolicy_documented (status : R → UInt16) (server : String → String) :
    (absolutePolicy status server).Documented status where
  statuses sent reply h := by
    by_contra hstatus
    exact h (if_neg hstatus)
  bare sent reply sent' hbare h := by
    unfold absolutePolicy at h
    dsimp only at h
    split at h
    · obtain ⟨url, -, hsent⟩ := Option.map_eq_some_iff.mp h
      cases hsent
      simp [Sent.Bare, hbare.1, hbare.2]
    · cases h

end Fabricd.Http

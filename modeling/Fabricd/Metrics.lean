import Fabricd.Framework.Lines
import Fabricd.Serve

/-!
# The metrics endpoint

One HTTP exchange a connection: a `GET /metrics` gets the counters of the daemon as text,
anything else a 404.
-/

namespace Fabricd

open Framework

/-! ## The exchange -/

/-- What a scrape asks for: its stream, and the two counters the sessions move. -/
inductive ScrapeOp where
  | read (size : Nat)
  | breakerTrips
  | authFailuresLoad
  | writeAll (bytes : List UInt8)
  | shutdown
  deriving DecidableEq

/-- A stream operation may fail; a read yields what has arrived, up to the size asked for. -/
def ScrapeOp.Ans : ScrapeOp → Type
  | read _ => Except String (List UInt8)
  | breakerTrips => UInt64
  | authFailuresLoad => UInt64
  | writeAll _ => Except String Unit
  | shutdown => Except String Unit

def ScrapeFx : Sig where
  Op := ScrapeOp
  Ans := ScrapeOp.Ans

/-- Whether the first line of a request is a `GET /metrics`. -/
def isMetricsRequest (head : String) : Bool :=
  match firstLine head.toList with
  | none => false
  | some line => line = "GET /metrics".toList ∨ "GET /metrics ".toList <+: line

/-- The text exposition of the two counters. -/
def exposition (trips authFailures : UInt64) : String :=
  s!"# HELP fabricd_db_breaker_trips_total Cumulative db circuit-breaker open transitions (Tier 3).\n" ++
  s!"# TYPE fabricd_db_breaker_trips_total counter\n" ++
  s!"fabricd_db_breaker_trips_total {trips}\n" ++
  s!"# HELP fabricd_auth_failures_total Cumulative client-auth rejections (a spike is a security signal).\n" ++
  s!"# TYPE fabricd_auth_failures_total counter\n" ++
  s!"fabricd_auth_failures_total {authFailures}\n"

/-- Renders the counters; without a breaker there are no trips. -/
def renderMetrics (shared : Shared) : Prog ScrapeFx String := do
  let trips : UInt64 ← if shared.breaker then Prog.perform (S := ScrapeFx) .breakerTrips else pure 0
  let authFailures : UInt64 ← Prog.perform (S := ScrapeFx) .authFailuresLoad
  return exposition trips authFailures

def okResponse (body : String) : String :=
  s!"HTTP/1.1 200 OK\r\ncontent-type: text/plain; version=0.0.4\r\n" ++
  s!"content-length: {body.utf8ByteSize}\r\nconnection: close\r\n\r\n{body}"

def notFoundResponse : String := "HTTP/1.1 404 Not Found\r\ncontent-length: 0\r\nconnection: close\r\n\r\n"

/-- Answers one HTTP exchange. -/
def serveMetricsOnce (lib : Lib) (shared : Shared) : ExceptT String (Prog ScrapeFx) Unit := do
  let bytes : List UInt8 ← ExceptT.mk (Prog.perform (S := ScrapeFx) (.read 1024))
  let head := lib.fromUtf8Lossy bytes
  let response : String ← ExceptT.lift
    (if isMetricsRequest head then okResponse <$> renderMetrics shared else pure notFoundResponse)
  let _ : Unit ← ExceptT.mk (Prog.perform (S := ScrapeFx) (.writeAll (utf8Bytes response)))
  ExceptT.mk (Prog.perform (S := ScrapeFx) .shutdown)

/-! ## Which requests are answered -/

/-- The request line of a scrape. -/
def scrapeLine : List Char := "GET /metrics".toList

/-- A head that starts with `GET /metrics`, and has nothing, a space or the end of the line
after it. -/
def AsksMetrics (head : String) : Prop :=
  ∃ rest, head.toList = scrapeLine ++ rest ∧
    (rest = [] ∨ [' '] <+: rest ∨ ['\n'] <+: rest ∨ ['\r', '\n'] <+: rest)

private theorem isMetricsRequest_iff (head : String) :
    isMetricsRequest head = true ↔ AsksMetrics head := by
  have hlf : '\n' ∉ scrapeLine := by decide
  have hcr : '\r' ∉ scrapeLine := by decide
  have hspaced : "GET /metrics ".toList = scrapeLine ++ [' '] := by decide
  have hsome : scrapeLine ≠ [] := by decide
  constructor
  · intro h
    unfold isMetricsRequest at h
    cases hline : firstLine head.toList with
    | none =>
      rw [hline] at h
      cases h
    | some line =>
      rw [hline] at h
      have hmatch : line = scrapeLine ∨ "GET /metrics ".toList <+: line := of_decide_eq_true h
      obtain ⟨-, hcases⟩ := firstLine_cases hline
      rcases hmatch with rfl | ⟨more, rfl⟩
      · rcases hcases with hhead | ⟨-, rest, hhead⟩ | ⟨rest, hhead⟩
        · exact ⟨[], by simpa using hhead, .inl rfl⟩
        · exact ⟨_, hhead, .inr (.inr (.inl ⟨rest, rfl⟩))⟩
        · exact ⟨_, hhead, .inr (.inr (.inr ⟨rest, rfl⟩))⟩
      · rw [hspaced] at hcases
        rcases hcases with hhead | ⟨-, rest, hhead⟩ | ⟨rest, hhead⟩
        · exact ⟨' ' :: more, by simpa using hhead, .inr (.inl ⟨more, rfl⟩)⟩
        · exact ⟨' ' :: (more ++ '\n' :: rest), by simpa using hhead, .inr (.inl ⟨_, rfl⟩)⟩
        · exact ⟨' ' :: (more ++ '\r' :: '\n' :: rest), by simpa using hhead, .inr (.inl ⟨_, rfl⟩)⟩
  · rintro ⟨rest, hhead, hrest⟩
    have hne : head.toList ≠ [] := by
      rw [hhead]
      exact List.append_ne_nil_of_left_ne_nil hsome rest
    obtain ⟨line, hline⟩ := firstLine_isSome hne
    obtain ⟨hfree, hcases⟩ := firstLine_cases hline
    have hgoal (h : line = scrapeLine ∨ "GET /metrics ".toList <+: line) :
        isMetricsRequest head = true := by
      unfold isMetricsRequest
      rw [hline]
      exact decide_eq_true h
    rw [hhead] at hcases
    have hstarts := line_starts hlf hcr hfree hcases hrest
    rw [← hspaced] at hstarts
    exact hgoal hstarts

/-! ## Reading the text back -/

/-- The sample of a line: a name, a space and a count; comments and empty lines have none. -/
def sampleOf (line : List Char) : Option (String × Nat) :=
  match line with
  | [] | '#' :: _ => none
  | line => (Decimal.readDigits ((line.dropWhile (· ≠ ' ')).drop 1)).map fun count =>
      (String.ofList (line.takeWhile (· ≠ ' ')), count)

/-- The samples of an exposition, line by line. -/
def readExposition (text : String) : List (String × Nat) :=
  (text.toList.splitOn '\n').filterMap sampleOf

private theorem sampleOf_comment (text : List Char) : sampleOf ('#' :: text) = none := rfl

private theorem sampleOf_count {c : Char} {name : List Char} (hc : c ≠ '#')
    (hname : ' ' ∉ c :: name)
    (n : Nat) : sampleOf (c :: name ++ ' ' :: Nat.toDigits 10 n) =
      some (String.ofList (c :: name), n) := by
  have hall : ∀ d ∈ c :: name, decide (d ≠ ' ') = true := by
    intro d hd
    have hne : d ≠ ' ' := fun h => hname (h ▸ hd)
    simpa using hne
  have hdrop : (c :: name ++ ' ' :: Nat.toDigits 10 n).dropWhile (· ≠ ' ') =
      ' ' :: Nat.toDigits 10 n := by
    rw [List.dropWhile_append_of_pos hall]
    simp
  have htake : (c :: name ++ ' ' :: Nat.toDigits 10 n).takeWhile (· ≠ ' ') = c :: name := by
    rw [List.takeWhile_append_of_pos hall]
    simp
  have hbody : sampleOf (c :: name ++ ' ' :: Nat.toDigits 10 n) =
      (Decimal.readDigits (((c :: name ++ ' ' :: Nat.toDigits 10 n).dropWhile (· ≠ ' ')).drop 1)).map
        fun count =>
          (String.ofList ((c :: name ++ ' ' :: Nat.toDigits 10 n).takeWhile (· ≠ ' ')), count) := by
    rw [List.cons_append]
    unfold sampleOf
    split
    next heq => cases heq
    next heq => exact absurd (List.cons.inj heq).1 hc
    next => rfl
  rw [hbody, hdrop, htake, List.drop_one, List.tail_cons, Decimal.readDigits_toDigits]
  rfl

def expositionLines (trips authFailures : UInt64) : List (List Char) :=
  ["# HELP fabricd_db_breaker_trips_total Cumulative db circuit-breaker open transitions (Tier 3).".toList,
    "# TYPE fabricd_db_breaker_trips_total counter".toList,
    "fabricd_db_breaker_trips_total".toList ++ ' ' :: Nat.toDigits 10 trips.toNat,
    "# HELP fabricd_auth_failures_total Cumulative client-auth rejections (a spike is a security signal).".toList,
    "# TYPE fabricd_auth_failures_total counter".toList,
    "fabricd_auth_failures_total".toList ++ ' ' :: Nat.toDigits 10 authFailures.toNat, []]

private theorem intercalate_six (a b c d e f : List Char) :
    ['\n'].intercalate [a, b, c, d, e, f, []] =
      a ++ ['\n'] ++ (b ++ ['\n']) ++ (c ++ ['\n']) ++ (d ++ ['\n']) ++ (e ++ ['\n']) ++ (f ++ ['\n']) := by
  simp [List.intercalate]

private theorem exposition_toList (trips authFailures : UInt64) :
    (exposition trips authFailures).toList =
    ['\n'].intercalate (expositionLines trips authFailures) := by
  have htext (text : String) : toString text = text := rfl
  have hcount (n : UInt64) : toString n = n.toNat.repr := rfl
  have hspaced (text : List Char) (n : Nat) : text ++ ' ' :: Nat.toDigits 10 n ++ ['\n'] =
      text ++ [' '] ++ Nat.toDigits 10 n ++ ['\n'] := by simp
  have hfeed : "\n".toList = ['\n'] := rfl
  have hended (text line : String) {cs : List Char} {c : Char} (hline : line = String.ofList cs)
      (htext : text = String.ofList (cs ++ [c])) : text.toList = line.toList ++ [c] := by
    rw [toList_of text htext, toList_of line hline]
  unfold exposition expositionLines
  rw [intercalate_six, hspaced, hspaced,
    ← hended "# HELP fabricd_db_breaker_trips_total Cumulative db circuit-breaker open transitions (Tier 3).\n" _ rfl rfl,
    ← hended "# TYPE fabricd_db_breaker_trips_total counter\n" _ rfl rfl,
    ← hended "fabricd_db_breaker_trips_total " _ rfl rfl,
    ← hended "# HELP fabricd_auth_failures_total Cumulative client-auth rejections (a spike is a security signal).\n" _ rfl rfl,
    ← hended "# TYPE fabricd_auth_failures_total counter\n" _ rfl rfl,
    ← hended "fabricd_auth_failures_total " _ rfl rfl]
  simp only [htext, hcount, String.toList_append, Nat.toList_repr]
  rw [hfeed]

private theorem digits_no_feed (n : Nat) : '\n' ∉ Nat.toDigits 10 n := by
  intro hmem
  have hdigit := Nat.isDigit_of_mem_toDigits (by decide) (by decide) hmem
  revert hdigit
  decide

private theorem expositionLines_no_feed (trips authFailures : UInt64) :
    ∀ line ∈ expositionLines trips authFailures, '\n' ∉ line := by
  have hcount {name : String} (hname : '\n' ∉ name.toList) (n : Nat) :
      '\n' ∉ name.toList ++ ' ' :: Nat.toDigits 10 n := by
    simp [hname, digits_no_feed]
  unfold expositionLines
  simp only [List.forall_mem_cons]
  exact ⟨not_mem_toList rfl rfl, not_mem_toList rfl rfl, hcount (not_mem_toList rfl rfl) _,
    not_mem_toList rfl rfl, not_mem_toList rfl rfl, hcount (not_mem_toList rfl rfl) _, by simp⟩

/-- The exposition reads back as the two counters. -/
theorem readExposition_exposition (trips authFailures : UInt64) :
    readExposition (exposition trips authFailures) =
      [("fabricd_db_breaker_trips_total", trips.toNat),
        ("fabricd_auth_failures_total", authFailures.toNat)] := by
  have hcomment {text : String} {cs : List Char} (h : text = String.ofList ('#' :: cs)) :
      sampleOf text.toList = none := by
    rw [h, String.toList_ofList]
    exact sampleOf_comment cs
  have hcount {name : String} {c : Char} {cs : List Char} (h : name = String.ofList (c :: cs))
      (hc : c ≠ '#') (hname : (c :: cs).contains ' ' = false) (n : Nat) :
      sampleOf (name.toList ++ ' ' :: Nat.toDigits 10 n) = some (name, n) := by
    rw [h, String.toList_ofList]
    exact sampleOf_count hc (by simpa using hname) n
  unfold readExposition
  rw [exposition_toList, List.splitOn_intercalate '\n' (expositionLines_no_feed trips authFailures)
    (List.cons_ne_nil _ _)]
  unfold expositionLines
  rw [List.filterMap_cons_none (hcomment rfl), List.filterMap_cons_none (hcomment rfl),
    List.filterMap_cons_some (hcount rfl (by decide) rfl _),
    List.filterMap_cons_none (hcomment rfl), List.filterMap_cons_none (hcomment rfl),
    List.filterMap_cons_some (hcount rfl (by decide) rfl _)]
  rfl

/-! ## Reading the responses back -/

private theorem contentLength_none {line : String} {cs : List Char} (h : line = String.ofList cs)
    (hstart : cs.head? ≠ some 'c' ∨ (cs.drop 2).head? ≠ some 'n' ∨ (cs.drop 8).head? ≠ some 'l') :
    contentLength line.toList = none := by
  have hname : "content-length: ".toList = ['c', 'o', 'n', 't', 'e', 'n', 't', '-', 'l', 'e', 'n',
    'g', 't', 'h', ':', ' '] := toList_of _ rfl
  rw [toList_of line h]
  unfold contentLength
  rw [hname, if_neg]
  rintro ⟨rest, rfl⟩
  simp at hstart

private theorem contentLength_count (n : Nat) :
    contentLength ("content-length: ".toList ++ Nat.toDigits 10 n) = some n := by
  have hsize : "content-length: ".toList.length = 16 := by
    rw [toList_of "content-length: " rfl]
    rfl
  unfold contentLength
  rw [if_pos (List.prefix_append _ _), List.drop_left' hsize, Decimal.readDigits_toDigits]

/-- The lines of the head of a response with a body of some length. -/
def okHead (length : Nat) : List (List Char) :=
  ["HTTP/1.1 200 OK".toList, "content-type: text/plain; version=0.0.4".toList,
    "content-length: ".toList ++ Nat.toDigits 10 length, "connection: close".toList]

private theorem okResponse_toList (body : String) :
    (okResponse body).toList = headed (okHead body.utf8ByteSize) body.toList := by
  have htext (text : String) : toString text = text := rfl
  have hcount (n : Nat) : toString n = n.repr := rfl
  have hstart : "HTTP/1.1 200 OK\r\ncontent-type: text/plain; version=0.0.4\r\n".toList =
      "HTTP/1.1 200 OK".toList ++ ['\r'] ++ '\n' ::
        ("content-type: text/plain; version=0.0.4".toList ++ ['\r'] ++ ['\n']) := by
    rw [toList_of _ rfl, toList_of "HTTP/1.1 200 OK" rfl,
      toList_of "content-type: text/plain; version=0.0.4" rfl]
    rfl
  have hend : "\r\nconnection: close\r\n\r\n".toList =
      ['\r'] ++ '\n' :: ("connection: close".toList ++ ['\r'] ++ '\n' :: (['\r'] ++ ['\n'])) := by
    rw [toList_of _ rfl, toList_of "connection: close" rfl]
    rfl
  unfold okResponse okHead headed
  simp only [htext, hcount, String.toList_append, Nat.toList_repr]
  rw [hstart, hend]
  simp only [List.foldr_cons, List.foldr_nil, List.append_assoc, List.cons_append, List.nil_append]

private theorem readResponse_ok (body : String) :
    readResponse (utf8Bytes (okResponse body)) = some ("HTTP/1.1 200 OK", body) := by
  have hsize : (utf8Bytes body).length = body.utf8ByteSize := rfl
  have hfree : ∀ line ∈ okHead body.utf8ByteSize, '\n' ∉ line := by
    unfold okHead
    simp only [List.forall_mem_cons]
    refine ⟨not_mem_toList rfl rfl, not_mem_toList rfl rfl, ?_, not_mem_toList rfl rfl, nofun⟩
    rw [List.mem_append, not_or]
    exact ⟨not_mem_toList rfl rfl, digits_no_feed _⟩
  have hfull : [] ∉ okHead body.utf8ByteSize := by
    have hne (text : String) {c : Char} {cs : List Char} (h : text = String.ofList (c :: cs)) :
        [] ≠ text.toList := by
      rw [toList_of text h]
      exact (List.cons_ne_nil c cs).symm
    have hlength : [] ≠ "content-length: ".toList ++ Nat.toDigits 10 body.utf8ByteSize := by
      rw [toList_of "content-length: " rfl]
      exact (List.cons_ne_nil _ _).symm
    unfold okHead
    simp only [List.mem_cons, not_or]
    exact ⟨hne _ rfl, hne _ rfl, hlength, hne _ rfl, List.not_mem_nil⟩
  have hlength : (okHead body.utf8ByteSize).findSome? contentLength =
      some (utf8Bytes body).length := by
    unfold okHead
    rw [List.findSome?_cons, contentLength_none rfl (by decide), List.findSome?_cons,
      contentLength_none rfl (by decide), List.findSome?_cons, contentLength_count, hsize]
  have hread := readResponse_headed (okResponse_toList body) hfree hfull hlength
  rw [String.ofList_toList] at hread
  exact hread

private theorem readResponse_notFound :
    readResponse (utf8Bytes notFoundResponse) = some ("HTTP/1.1 404 Not Found", "") := by
  decide +kernel

/-! ## One exchange -/

def loads (shared : Shared) (trips authFailures : UInt64) : List (Event ScrapeFx) :=
  (if shared.breaker then [⟨.breakerTrips, trips⟩] else []) ++ [⟨.authFailuresLoad, authFailures⟩]

/-- The end of an exchange: its response and the shutdown. -/
def respond (response : String) : Prog ScrapeFx (Except String Unit) :=
  .act (.writeAll (utf8Bytes response)) fun (written : Except String Unit) =>
    match written with
    | .ok _ => .act .shutdown .ret
    | .error err => .ret (.error err)

private theorem serveMetricsOnce_run (lib : Lib) (shared : Shared) :
    (serveMetricsOnce lib shared).run =
      (.act (.read 1024) fun (got : Except String (List UInt8)) =>
        match got with
        | .error err => .ret (.error err)
        | .ok bytes =>
          if isMetricsRequest (lib.fromUtf8Lossy bytes) then
            renderMetrics shared >>= fun body => respond (okResponse body)
          else respond notFoundResponse : Prog ScrapeFx (Except String Unit)) := by
  have hfinish (response : String) : (do
      let _ : Unit ← ExceptT.mk (Prog.perform (S := ScrapeFx) (.writeAll (utf8Bytes response)))
      ExceptT.mk (Prog.perform (S := ScrapeFx) .shutdown) : ExceptT String (Prog ScrapeFx) Unit).run =
        respond response := by
    refine congrArg (Prog.act (S := ScrapeFx) _) (funext fun written => ?_)
    cases written with
    | ok _ => rfl
    | error err => rfl
  refine congrArg (Prog.act (S := ScrapeFx) _) (funext fun got => ?_)
  cases got with
  | error err => rfl
  | ok bytes =>
    refine (ExceptT.run_bind_lift (if isMetricsRequest (lib.fromUtf8Lossy bytes) then
      okResponse <$> renderMetrics shared else pure notFoundResponse) _).trans ?_
    simp only [hfinish]
    split
    · exact bind_map_left _ _ _
    · rfl

def Event.writes (e : Event ScrapeFx) : Bool :=
  match e.op with
  | .writeAll _ => true
  | _ => false

/-- How a scrape is over: its read failed, its write failed, or it wrote and shut down. -/
def Concluded (log : List (Event ScrapeFx)) (r : Except String Unit) : Prop :=
  (∃ err, log = [⟨.read 1024, .error err⟩] ∧ r = .error err) ∨
    ∃ before text, (∃ err, log = before ++ [⟨.writeAll text, .error err⟩] ∧ r = .error err) ∨
      log = before ++ [⟨.writeAll text, .ok ()⟩, ⟨.shutdown, r⟩]

private theorem steps_renderMetrics {shared : Shared} {es : List (Event ScrapeFx)}
    {p : Prog ScrapeFx String}
    (hs : Prog.Steps (renderMetrics shared) es p) :
    (∀ e ∈ es, Event.writes e = false) ∧ ∀ body, p = .ret body → ∃ trips authFailures,
      es = loads shared trips authFailures ∧ (shared.breaker = false → trips = 0) ∧
        body = exposition trips authFailures := by
  have hload {trips : UInt64} {es : List (Event ScrapeFx)} {p : Prog ScrapeFx String}
      (hs : Prog.Steps (.act .authFailuresLoad fun (failures : UInt64) =>
        .ret (exposition trips failures) : Prog ScrapeFx String) es p) :
      (∀ e ∈ es, Event.writes e = false) ∧ ∀ body, p = .ret body → ∃ failures : UInt64,
        es = [⟨.authFailuresLoad, failures⟩] ∧ body = exposition trips failures := by
    cases hs with
    | refl => exact ⟨nofun, nofun⟩
    | act hs =>
      obtain ⟨rfl, rfl⟩ := Prog.steps_ret hs
      refine ⟨fun e he => ?_, fun body hbody => ?_⟩
      · cases List.mem_singleton.mp he
        rfl
      · cases hbody
        exact ⟨_, rfl, rfl⟩
  cases hbreaker : shared.breaker with
  | false =>
    have hprogram : renderMetrics shared = (.act .authFailuresLoad fun (failures : UInt64) =>
        .ret (exposition 0 failures) : Prog ScrapeFx String) := by
      simp only [renderMetrics, hbreaker]
      rfl
    rw [hprogram] at hs
    obtain ⟨hquiet, hdone⟩ := hload hs
    refine ⟨hquiet, fun body hbody => ?_⟩
    obtain ⟨failures, rfl, hbody⟩ := hdone body hbody
    exact ⟨0, failures, by simp [loads, hbreaker], fun _ => rfl, hbody⟩
  | true =>
    have hprogram : renderMetrics shared = (.act .breakerTrips fun (trips : UInt64) =>
        .act .authFailuresLoad fun (failures : UInt64) => .ret (exposition trips failures) :
          Prog ScrapeFx String) := by
      simp only [renderMetrics, hbreaker]
      rfl
    rw [hprogram] at hs
    cases hs with
    | refl => exact ⟨nofun, nofun⟩
    | @act _ _ trips _ _ hs =>
      obtain ⟨hquiet, hdone⟩ := hload hs
      refine ⟨List.forall_mem_cons.mpr ⟨rfl, hquiet⟩, fun body hbody => ?_⟩
      obtain ⟨failures, rfl, hbody⟩ := hdone body hbody
      exact ⟨trips, failures, by simp [loads, hbreaker], nofun, hbody⟩

/-- The end of an exchange writes once, its own response, and is over after that. -/
theorem steps_respond {response : String} (start : List (Event ScrapeFx)) {es : List (Event ScrapeFx)}
    {q : Prog ScrapeFx (Except String Unit)} (hstart : ∀ e ∈ start, Event.writes e = false)
    (hs : Prog.Steps (respond response) es q) :
    (∀ before text written after, start ++ es = before ++ ⟨.writeAll text, written⟩ :: after →
      before = start ∧ text = utf8Bytes response ∧ ∀ e ∈ after, e.op = .shutdown) ∧
    ∀ r, q = .ret r → Concluded (start ++ es) r := by
  have hcut {before after es' : List (Event ScrapeFx)} {text : List UInt8}
      {written : Except String Unit}
      (h : start ++ es' = before ++ ⟨.writeAll text, written⟩ :: after) :
      ∃ mid, before = start ++ mid ∧ es' = mid ++ ⟨.writeAll text, written⟩ :: after := by
    rcases List.append_eq_append_iff.mp h with ⟨mid, hbefore, hes⟩ | ⟨mid, rfl, hmid⟩
    · exact ⟨mid, hbefore, hes⟩
    · cases mid with
      | nil => exact ⟨[], by simp, by simpa using hmid.symm⟩
      | cons e mid =>
        have he := hstart e (by simp)
        rw [← (List.cons.inj hmid).1] at he
        cases he
  cases hs with
  | refl =>
    refine ⟨fun before text written after h => ?_, nofun⟩
    obtain ⟨mid, -, hmid⟩ := hcut h
    simp at hmid
  | @act _ _ written rest _ hs =>
    have hone {rest : List (Event ScrapeFx)} (hrest : ∀ e ∈ rest, e.op = .shutdown)
        {before after : List (Event ScrapeFx)} {text : List UInt8} {written' : Except String Unit}
        (h : start ++ ⟨.writeAll (utf8Bytes response), written⟩ :: rest =
          before ++ ⟨.writeAll text, written'⟩ :: after) :
        before = start ∧ text = utf8Bytes response ∧ ∀ e ∈ after, e.op = .shutdown := by
      obtain ⟨mid, rfl, hmid⟩ := hcut h
      cases mid with
      | nil =>
        obtain ⟨he, rfl⟩ := List.cons.inj hmid
        cases he
        exact ⟨List.append_nil _, rfl, hrest⟩
      | cons e mid =>
        obtain ⟨-, rfl⟩ := List.cons.inj hmid
        have hshutdown := hrest ⟨.writeAll text, written'⟩ (by simp)
        cases hshutdown
    cases written with
    | error err =>
      obtain ⟨rfl, rfl⟩ := Prog.steps_ret hs
      refine ⟨fun before text written after h => hone (List.forall_mem_nil _) h, fun r hr => ?_⟩
      cases hr
      exact .inr ⟨start, _, .inl ⟨err, rfl, rfl⟩⟩
    | ok _ =>
      cases hs with
      | refl => exact ⟨fun before text written after h => hone (List.forall_mem_nil _) h, nofun⟩
      | act hs =>
        obtain ⟨rfl, rfl⟩ := Prog.steps_ret hs
        have hlast {answer : Except String Unit} : ∀ e ∈ ([⟨.shutdown, answer⟩] : List (Event ScrapeFx)),
            e.op = .shutdown := by
          intro e he
          cases List.mem_singleton.mp he
          rfl
        refine ⟨fun before text written after h => hone hlast h, fun r hr => ?_⟩
        cases hr
        exact .inr ⟨start, _, .inr rfl⟩

/-- What was written after `before`: the counters just looked at if the head asks for them, and
otherwise that there is nothing, with no look at them. -/
def Replied (lib : Lib) (shared : Shared) (before : List (Event ScrapeFx)) (text : List UInt8) : Prop :=
  ∃ bytes,
    (AsksMetrics (lib.fromUtf8Lossy bytes) ∧ ∃ trips authFailures body,
      before = ⟨.read 1024, .ok bytes⟩ :: loads shared trips authFailures ∧
      (shared.breaker = false → trips = 0) ∧
      readResponse text = some ("HTTP/1.1 200 OK", body) ∧
      readExposition body = [("fabricd_db_breaker_trips_total", trips.toNat),
        ("fabricd_auth_failures_total", authFailures.toNat)]) ∨
    (¬ AsksMetrics (lib.fromUtf8Lossy bytes) ∧ before = [⟨.read 1024, .ok bytes⟩] ∧
      readResponse text = some ("HTTP/1.1 404 Not Found", ""))

/-- At most one response, decided by the head that was read and the counters as they were, and
nothing but the shutdown after it; and an exchange is over only with a response, or a stream
that failed. -/
theorem metrics_run {lib : Lib} {shared : Shared} {log : List (Event ScrapeFx)}
    {q : Prog ScrapeFx (Except String Unit)}
    (hs : Prog.Steps (serveMetricsOnce lib shared).run log q) :
    (∀ before text written after, log = before ++ ⟨.writeAll text, written⟩ :: after →
      Replied lib shared before text ∧ ∀ e ∈ after, e.op = .shutdown) ∧
    ∀ r, q = .ret r → Concluded log r := by
  have hquiet {log : List (Event ScrapeFx)} (h : ∀ e ∈ log, Event.writes e = false)
      {before after : List (Event ScrapeFx)} {text : List UInt8} {written : Except String Unit}
      (hlog : log = before ++ ⟨.writeAll text, written⟩ :: after) : False := by
    have hwrite := h ⟨.writeAll text, written⟩ (by simp [hlog])
    cases hwrite
  rw [serveMetricsOnce_run] at hs
  cases hs with
  | refl => exact ⟨fun before text written after h => (hquiet (List.forall_mem_nil _) h).elim, nofun⟩
  | @act _ _ got log _ hs =>
    cases got with
    | error err =>
      obtain ⟨rfl, rfl⟩ := Prog.steps_ret hs
      refine ⟨fun before text written after h => (hquiet (by simp [Event.writes]) h).elim,
        fun r hr => ?_⟩
      cases hr
      exact .inl ⟨err, rfl, rfl⟩
    | ok bytes =>
      have hasks := isMetricsRequest_iff (lib.fromUtf8Lossy bytes)
      cases hrequest : isMetricsRequest (lib.fromUtf8Lossy bytes) with
      | false =>
        simp only [hrequest, Bool.false_eq_true, if_false, false_iff] at hs hasks
        obtain ⟨hwrite, hover⟩ := steps_respond [⟨.read 1024, .ok bytes⟩]
          (by simp [Event.writes]) hs
        refine ⟨fun before text written after h => ?_, hover⟩
        obtain ⟨rfl, rfl, hafter⟩ := hwrite before text written after h
        exact ⟨⟨bytes, .inr ⟨hasks, rfl, readResponse_notFound⟩⟩, hafter⟩
      | true =>
        simp only [hrequest, if_true, true_iff] at hs hasks
        rcases Prog.steps_bind hs with ⟨p', hrender, rfl⟩ | ⟨es, fs, body, rfl, hrender, hrest⟩
        · have hloads := (steps_renderMetrics hrender).1
          have hread : ∀ e ∈ (⟨.read 1024, .ok bytes⟩ :: log : List (Event ScrapeFx)),
              Event.writes e = false := List.forall_mem_cons.mpr ⟨rfl, hloads⟩
          refine ⟨fun before text written after h => (hquiet hread h).elim, fun r hr => ?_⟩
          cases p' <;> cases hr
        · obtain ⟨hloads, hdone⟩ := steps_renderMetrics hrender
          obtain ⟨trips, authFailures, rfl, htrips, rfl⟩ := hdone body rfl
          have hread : ∀ e ∈ (⟨.read 1024, .ok bytes⟩ :: loads shared trips authFailures :
              List (Event ScrapeFx)), Event.writes e = false := List.forall_mem_cons.mpr ⟨rfl, hloads⟩
          obtain ⟨hwrite, hover⟩ := steps_respond _ hread hrest
          refine ⟨fun before text written after h => ?_, hover⟩
          obtain ⟨rfl, rfl, hafter⟩ := hwrite before text written after h
          exact ⟨⟨bytes, .inl ⟨hasks, trips, authFailures, _, rfl, htrips, readResponse_ok _,
            readExposition_exposition trips authFailures⟩⟩, hafter⟩

/-- One exchange, as its client reads it. Its read failed and nothing was written; or the one
response reads back as the counters looked at before, if the head asks for them, and as that
there is nothing if not, and the exchange ends with the shutdown or with the write that failed. -/
theorem metrics_exchange {lib : Lib} {shared : Shared} {log : List (Event ScrapeFx)}
    {r : Except String Unit} (hs : Prog.Steps (serveMetricsOnce lib shared).run log (.ret r)) :
    (∃ err, log = [⟨.read 1024, .error err⟩] ∧ r = .error err) ∨
      ∃ before text, Replied lib shared before text ∧
        ((∃ err, log = before ++ [⟨.writeAll text, .error err⟩] ∧ r = .error err) ∨
          log = before ++ [⟨.writeAll text, .ok ()⟩, ⟨.shutdown, r⟩]) := by
  obtain ⟨hwrite, hover⟩ := metrics_run hs
  rcases hover r rfl with hread | ⟨before, text, ⟨err, hlog, hr⟩ | hlog⟩
  · exact .inl hread
  · exact .inr ⟨before, text, (hwrite _ _ _ _ hlog).1, .inl ⟨err, hlog, hr⟩⟩
  · exact .inr ⟨before, text, (hwrite _ _ _ _ hlog).1, .inr hlog⟩

def scrapeLib : Lib := { Lib.rejecting with fromUtf8Lossy := fun bytes => (ofUtf8 bytes).getD "" }

/-- A scrape of a daemon without a breaker. -/
def scrapeLog : List (Event ScrapeFx) :=
  [⟨.read 1024, .ok (utf8Bytes "GET /metrics HTTP/1.1\r\n\r\n")⟩, ⟨.authFailuresLoad, (7 : UInt64)⟩,
    ⟨.writeAll (utf8Bytes (okResponse (exposition 0 7))), .ok ()⟩, ⟨.shutdown, .ok ()⟩]

private theorem scrapeLog_steps (table : Table) :
    Prog.Steps (serveMetricsOnce scrapeLib ⟨table, 0, false⟩).run scrapeLog (.ret (.ok ())) := by
  have hasks : isMetricsRequest (scrapeLib.fromUtf8Lossy
      (utf8Bytes "GET /metrics HTTP/1.1\r\n\r\n")) = true := by decide +kernel
  rw [serveMetricsOnce_run]
  refine .act ?_
  simp only [hasks, if_true]
  exact .act (.act (.act (.refl _)))

theorem metrics_exchange_seven : ∃ before text, Replied scrapeLib ⟨fun _ => none, 0, false⟩ before text ∧
    scrapeLog = before ++ [⟨.writeAll text, .ok ()⟩, ⟨.shutdown, .ok ()⟩] := by
  rcases metrics_exchange (scrapeLog_steps fun _ => none) with
    ⟨err, -, hr⟩ | ⟨before, text, hreply, ⟨err, -, hr⟩ | hlog⟩
  · cases hr
  · cases hr
  · exact ⟨before, text, hreply, hlog⟩

end Fabricd

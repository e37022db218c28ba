import Fabricd.Framework.Bytes
import Fabricd.Framework.Decimal

/-!
# Lines

The first line of a text, and a response of the hypertext protocol as its client reads it: lines
up to an empty one, and a body of the length that one of them says.
-/

namespace Framework

/-! ## The first line -/

/-- `head.lines().next()`: up to the first line feed, without it and a carriage return right
before it; nothing of an empty head. -/
def firstLine (head : List Char) : Option (List Char) :=
  if head = [] then none
  else
    let line := head.takeWhile (· ≠ '\n')
    if line.length = head.length then some line
    else if line.getLast? = some '\r' then some line.dropLast
    else some line

/-- The first line, by where it ends: nowhere, at a line feed, or at a carriage return with
one. -/
theorem firstLine_cases {head line : List Char} (h : firstLine head = some line) :
    '\n' ∉ line ∧
      (head = line ∨
        (line.getLast? ≠ some '\r' ∧ ∃ rest, head = line ++ '\n' :: rest) ∨
        ∃ rest, head = line ++ '\r' :: '\n' :: rest) := by
  unfold firstLine at h
  split at h
  next => cases h
  next hne =>
    have hfree : '\n' ∉ head.takeWhile (· ≠ '\n') := by
      intro hmem
      have hall := List.all_eq_true.mp (List.all_takeWhile (p := (· ≠ '\n')) (l := head)) _ hmem
      simp at hall
    have hsplit := List.takeWhile_append_dropWhile (p := (· ≠ '\n')) (l := head)
    cases hdrop : head.dropWhile (· ≠ '\n') with
    | nil =>
      rw [hdrop, List.append_nil] at hsplit
      simp only [hsplit, if_true, Option.some.injEq] at h
      rw [← h]
      exact ⟨hsplit ▸ hfree, .inl rfl⟩
    | cons c rest =>
      have hc : c = '\n' := by
        have hhead := List.head?_dropWhile_not (· ≠ '\n') head
        rw [hdrop] at hhead
        simpa using hhead
      subst hc
      rw [hdrop] at hsplit
      have hlen : (head.takeWhile (· ≠ '\n')).length ≠ head.length := by
        intro hlen
        have hboth := congrArg List.length hsplit
        simp only [List.length_append, List.length_cons] at hboth
        omega
      simp only [hlen, if_false] at h
      split at h
      next hcr =>
        cases h
        have hline : (head.takeWhile (· ≠ '\n')).dropLast ++ ['\r'] = head.takeWhile (· ≠ '\n') :=
          List.dropLast_append_getLast? _ hcr
        refine ⟨fun hmem => hfree (List.dropLast_subset _ hmem), .inr (.inr ⟨rest, ?_⟩)⟩
        calc head = head.takeWhile (· ≠ '\n') ++ '\n' :: rest := hsplit.symm
          _ = (head.takeWhile (· ≠ '\n')).dropLast ++ ['\r'] ++ '\n' :: rest := by rw [hline]
          _ = (head.takeWhile (· ≠ '\n')).dropLast ++ '\r' :: '\n' :: rest := by
            rw [List.append_assoc, List.singleton_append]
      next hcr =>
        cases h
        exact ⟨hfree, .inr (.inl ⟨hcr, rest, hsplit.symm⟩)⟩

theorem firstLine_isSome {head : List Char} (h : head ≠ []) : ∃ line, firstLine head = some line := by
  unfold firstLine
  rw [if_neg h]
  dsimp only
  split
  · exact ⟨_, rfl⟩
  · split
    · exact ⟨_, rfl⟩
    · exact ⟨_, rfl⟩

theorem prefix_before {α : Type} {sep : α} {start before after : List α} (hfree : sep ∉ start)
    (h : start <+: before ++ sep :: after) : start <+: before := by
  obtain ⟨rest, hrest⟩ := h
  rcases List.append_eq_append_iff.mp hrest with ⟨mid, rfl, -⟩ | ⟨mid, rfl, hmid⟩
  · exact List.prefix_append _ _
  · cases mid with
    | nil => simp
    | cons c mid =>
      have hc : sep = c := (List.cons.inj hmid).1
      subst hc
      simp at hfree

theorem before_inj {α : Type} {sep : α} {before before' after after' : List α}
    (hfree : sep ∉ before) (hfree' : sep ∉ before')
    (h : before ++ sep :: after = before' ++ sep :: after') : before = before' := by
  have hle : before <+: before' := prefix_before hfree (h ▸ List.prefix_append _ _)
  have hge : before' <+: before := prefix_before hfree' (h.symm ▸ List.prefix_append _ _)
  exact hle.eq_of_length_le hge.length_le

theorem line_starts {start line rest : List Char} (hlf : '\n' ∉ start) (hcr : '\r' ∉ start)
    (hfree : '\n' ∉ line)
    (hcases : start ++ rest = line ∨
      (line.getLast? ≠ some '\r' ∧ ∃ after, start ++ rest = line ++ '\n' :: after) ∨
      ∃ after, start ++ rest = line ++ '\r' :: '\n' :: after)
    (hrest : rest = [] ∨ [' '] <+: rest ∨ ['\n'] <+: rest ∨ ['\r', '\n'] <+: rest) :
    line = start ∨ start ++ [' '] <+: line := by
  have hjoin (after : List Char) : line ++ '\r' :: '\n' :: after =
      (line ++ ['\r']) ++ '\n' :: after := by simp
  have hfree' : '\n' ∉ line ++ ['\r'] := by simp [hfree]
  rcases hrest with rfl | ⟨more, rfl⟩ | ⟨more, rfl⟩ | ⟨more, rfl⟩
  · rw [List.append_nil] at hcases
    rcases hcases with rfl | ⟨-, after, rfl⟩ | ⟨after, rfl⟩
    · exact .inl rfl
    · simp at hlf
    · simp at hlf
  · have hspaced : start ++ ([' '] ++ more) = (start ++ [' ']) ++ more := by simp
    rw [hspaced] at hcases
    rcases hcases with rfl | ⟨-, after, hhead⟩ | ⟨after, hhead⟩
    · exact .inr (List.prefix_append _ _)
    · exact .inr (prefix_before (by simp [hlf]) (hhead ▸ List.prefix_append _ _))
    · exact .inr (prefix_before (by simp [hcr]) (hhead ▸ List.prefix_append _ _))
  · rcases hcases with rfl | ⟨-, after, hhead⟩ | ⟨after, hhead⟩
    · simp at hfree
    · exact .inl (before_inj hlf hfree hhead).symm
    · rw [hjoin] at hhead
      have hline : start = line ++ ['\r'] := before_inj hlf hfree' hhead
      rw [hline] at hcr
      simp at hcr
  · have hended : start ++ (['\r', '\n'] ++ more) = (start ++ ['\r']) ++ '\n' :: more := by simp
    have hlf' : '\n' ∉ start ++ ['\r'] := by simp [hlf]
    rw [hended] at hcases
    rcases hcases with rfl | ⟨hlast, after, hhead⟩ | ⟨after, hhead⟩
    · simp at hfree
    · have hline : start ++ ['\r'] = line := before_inj hlf' hfree hhead
      rw [← hline] at hlast
      simp at hlast
    · rw [hjoin] at hhead
      have hline : start ++ ['\r'] = line ++ ['\r'] := before_inj hlf' hfree' hhead
      exact .inl (List.append_cancel_right hline).symm

/-! ## Texts by their characters -/

theorem toList_of (text : String) {cs : List Char} (h : text = String.ofList cs) : text.toList = cs := by
  rw [h, String.toList_ofList]

theorem not_mem_toList {text : String} {c : Char} {cs : List Char} (h : text = String.ofList cs)
    (hfree : cs.contains c = false) : c ∉ text.toList := by
  rw [h, String.toList_ofList]
  simpa using hfree

/-! ## Responses -/

/-- The length a header line says the body has. -/
def contentLength (line : List Char) : Option Nat :=
  if "content-length: ".toList <+: line then Decimal.readDigits (line.drop 16) else none

/-- A response, by its status line and its body: lines that end in a carriage return and a line
feed, one of them with the length of the body, then an empty one, then the body. -/
def readResponse (bytes : List UInt8) : Option (String × String) := do
  let text ← ofUtf8 bytes
  let lines := text.toList.splitOn '\n'
  let head := (lines.takeWhile (· ≠ ['\r'])).map List.dropLast
  let body := String.ofList (['\n'].intercalate (lines.dropWhile (· ≠ ['\r'])).tail)
  let status ← head.head?
  let length ← head.findSome? contentLength
  if (utf8Bytes body).length = length then some (String.ofList status, body) else none

/-- The lines of a head, and what is after the empty one. -/
def headed (head : List (List Char)) (body : List Char) : List Char :=
  head.foldr (fun line rest => line ++ ['\r'] ++ '\n' :: rest) (['\r'] ++ '\n' :: body)

theorem splitOn_headed {head : List (List Char)} (hfree : ∀ line ∈ head, '\n' ∉ line)
    (body : List Char) : (headed head body).splitOn '\n' =
      head.map (· ++ ['\r']) ++ ['\r'] :: body.splitOn '\n' := by
  induction head with
  | nil => exact List.splitOn_append_cons_self_of_not_mem (by simp) body
  | cons line head ih =>
    obtain ⟨hline, hhead⟩ := List.forall_mem_cons.mp hfree
    have hended : '\n' ∉ line ++ ['\r'] := by simp [hline]
    have hrest := List.splitOn_append_cons_self_of_not_mem hended (headed head body)
    rw [ih hhead] at hrest
    exact hrest

/-- A response reads back as it was put together. -/
theorem readResponse_headed {text : String} {status : List Char} {headers : List (List Char)}
    {body : String} (htext : text.toList = headed (status :: headers) body.toList)
    (hfree : ∀ line ∈ status :: headers, '\n' ∉ line) (hfull : [] ∉ status :: headers)
    (hlength : (status :: headers).findSome? contentLength = some (utf8Bytes body).length) :
    readResponse (utf8Bytes text) = some (String.ofList status, body) := by
  have hhead : ∀ line ∈ (status :: headers).map (· ++ ['\r']), decide (line ≠ ['\r']) = true := by
    intro line hline
    obtain ⟨start, hstart, rfl⟩ := List.mem_map.mp hline
    have hne : start ≠ [] := fun h => hfull (h ▸ hstart)
    simpa using hne
  have htake : (((status :: headers).map (· ++ ['\r']) ++ ['\r'] :: body.toList.splitOn '\n').takeWhile
      (· ≠ ['\r'])).map List.dropLast = status :: headers := by
    rw [List.takeWhile_append_of_pos hhead, List.takeWhile_cons_of_neg (by simp), List.append_nil,
      List.map_map]
    simp [Function.comp_def]
  have hdrop : String.ofList (['\n'].intercalate (((status :: headers).map (· ++ ['\r']) ++
      ['\r'] :: body.toList.splitOn '\n').dropWhile (· ≠ ['\r'])).tail) = body := by
    rw [List.dropWhile_append_of_pos hhead, List.dropWhile_cons_of_neg (by simp), List.tail_cons,
      List.intercalate_splitOn, String.ofList_toList]
  unfold readResponse
  rw [ofUtf8_utf8Bytes]
  simp only [Option.bind_eq_bind, Option.bind_some]
  rw [htext, splitOn_headed hfree, htake, hdrop, hlength]
  simp

end Framework

import Fabricd.Framework.Bytes
import Fabricd.Framework.Decimal

/-!
# Connection strings and forms

A connection string is `user:password@host:port/?key=value&key=value`, with percent-encoded
parts. It is taken apart at its delimiters alone, each of which is to occur once.
-/

namespace Framework.ConnectionString

/-! ## Percent-decoding -/

def hexValue (c : Char) : Option Nat :=
  if '0' ≤ c ∧ c ≤ '9' then some (c.toNat - '0'.toNat)
  else if 'A' ≤ c ∧ c ≤ 'F' then some (c.toNat - 'A'.toNat + 10)
  else if 'a' ≤ c ∧ c ≤ 'f' then some (c.toNat - 'a'.toNat + 10)
  else none

/-- The bytes of a percent-encoded part; a stray percent sign is an error. -/
def decodeBytes : List Char → Option (List UInt8)
  | [] => some []
  | '%' :: high :: low :: rest => do
    let h ← hexValue high
    let l ← hexValue low
    let bytes ← decodeBytes rest
    return UInt8.ofNat (h * 16 + l) :: bytes
  | '%' :: _ => none
  | c :: rest => do
    let bytes ← decodeBytes rest
    return String.utf8EncodeChar c ++ bytes

/-- The text of a percent-encoded part. -/
def decode (cs : List Char) : Option String := (decodeBytes cs).bind ofUtf8

theorem decodeBytes_char {c : Char} (h : c ≠ '%') (rest : List Char) :
    decodeBytes (c :: rest) = (decodeBytes rest).map (String.utf8EncodeChar c ++ ·) := by
  rw [decodeBytes]
  · cases decodeBytes rest <;> rfl
  · rintro _ _ _ rfl
    exact absurd rfl h
  · rintro rfl
    exact absurd rfl h

theorem decodeBytes_triplet {high low : Char} {h l : Nat} (hhigh : hexValue high = some h)
    (hlow : hexValue low = some l) (rest : List Char) :
    decodeBytes ('%' :: high :: low :: rest) =
      (decodeBytes rest).map (UInt8.ofNat (h * 16 + l) :: ·) := by
  rw [decodeBytes, hhigh, hlow]
  cases decodeBytes rest <;> rfl

theorem utf8Bytes_flatMap (text : String) :
    utf8Bytes text = text.toList.flatMap String.utf8EncodeChar := by
  unfold utf8Bytes
  rw [String.toUTF8, ← String.utf8Encode_toList, List.utf8Encode]
  simp

theorem decode_plain {text : String} (h : '%' ∉ text.toList) : decode text.toList = some text := by
  have hbytes : ∀ cs : List Char, '%' ∉ cs → decodeBytes cs = some (cs.flatMap String.utf8EncodeChar) := by
    intro cs hcs
    induction cs with
    | nil => rfl
    | cons c cs ih =>
      rw [List.mem_cons, not_or] at hcs
      rw [decodeBytes_char (Ne.symm hcs.1), ih hcs.2]
      rfl
  rw [decode, hbytes _ h, ← utf8Bytes_flatMap]
  exact ofUtf8_utf8Bytes text

/-! ## The grammar -/

/-- What a connection string says. -/
structure Parts where
  user : Option (String × Option String)
  host : String
  port : Nat
  options : List (String × String)
  deriving DecidableEq

def pair (cs : List Char) : Option (String × String) :=
  match cs.splitOn '=' with
  | [key, value] => do return (← decode key, ← decode value)
  | _ => none

def pairs (cs : List Char) : Option (List (String × String)) := (cs.splitOn '&').mapM pair

/-- A user, or `user:password`. -/
def userinfo (cs : List Char) : Option (String × Option String) :=
  match cs.splitOn ':' with
  | [user] => do return (← decode user, none)
  | [user, password] => do return (← decode user, some (← decode password))
  | _ => none

def hostPort (cs : List Char) : Option (String × Nat) :=
  match cs.splitOn ':' with
  | [host, port] => do return (← decode host, ← Decimal.readDigits port)
  | _ => none

/-- `host:port/?options`. -/
def location (cs : List Char) : Option (String × Nat × List (String × String)) :=
  match cs.splitOn '/' with
  | [address, '?' :: options] => do
    let (host, port) ← hostPort address
    return (host, port, ← pairs options)
  | _ => none

/-- Everything after the scheme. -/
def parts (cs : List Char) : Option Parts :=
  match cs.splitOn '@' with
  | [rest] => do
    let (host, port, options) ← location rest
    return ⟨none, host, port, options⟩
  | [user, rest] => do
    let user ← userinfo user
    let (host, port, options) ← location rest
    return ⟨some user, host, port, options⟩
  | _ => none

def parse (scheme text : String) : Option Parts :=
  (List.dropPrefix? text.toList (scheme ++ "://").toList).bind parts

/-- A form: a plus sign stands for a blank. -/
def parseForm (text : String) : Option (List (String × String)) :=
  pairs (text.toList.map fun c => if c = '+' then ' ' else c)

/-! ## Printing -/

/-- The characters a part cannot have in it. -/
def delimiters : List Char := ['/', '?', '#', '@', ':', '&', '=', '+']

/-- An encoding of texts as parts. -/
structure Encodes (encode : String → List Char) : Prop where
  plain : ∀ text, ∀ c ∈ encode text, c ∉ delimiters
  decode : ∀ text, decode (encode text) = some text

/-- Pairs of encoded texts with `&` between them. -/
def printPairs (encode : String → List Char) (options : List (String × String)) : List Char :=
  ['&'].intercalate (options.map fun option => encode option.1 ++ '=' :: encode option.2)

def printUser (encode : String → List Char) : Option (String × Option String) → List Char
  | none => []
  | some (user, none) => encode user ++ ['@']
  | some (user, some password) => encode user ++ ':' :: encode password ++ ['@']

def print (encode : String → List Char) (parts : Parts) : List Char :=
  printUser encode parts.user ++ parts.host.toList ++ ':' :: Nat.toDigits 10 parts.port ++
    '/' :: '?' :: printPairs encode parts.options

section

variable {encode : String → List Char}

def printRest (encode : String → List Char) (options : List (String × String)) : List Char :=
  options.flatMap fun option => '&' :: encode option.1 ++ '=' :: encode option.2

theorem printPairs_cons (option : String × String) (options : List (String × String)) :
    printPairs encode (option :: options) =
      encode option.1 ++ '=' :: encode option.2 ++ printRest encode options := by
  induction options generalizing option with
  | nil => simp [printPairs, printRest]
  | cons next options ih =>
    have hnext : printPairs encode (option :: next :: options) =
        encode option.1 ++ '=' :: encode option.2 ++ '&' :: printPairs encode (next :: options) := by
      simp [printPairs, List.intercalate_cons_cons]
    rw [hnext, ih]
    simp [printRest]

theorem Encodes.not_mem (henc : Encodes encode) (text : String) {c : Char} (hc : c ∈ delimiters) :
    c ∉ encode text :=
  fun hmem => henc.plain text c hmem hc

theorem pair_print (henc : Encodes encode) (option : String × String) :
    pair (encode option.1 ++ '=' :: encode option.2) = some option := by
  rw [pair, List.splitOn_append_cons_self_of_not_mem (henc.not_mem _ (by decide)),
    List.splitOn_eq_singleton (henc.not_mem _ (by decide))]
  simp [henc.decode]

theorem pairs_print (henc : Encodes encode) (options : List (String × String)) (hne : options ≠ []) :
    pairs (printPairs encode options) = some options := by
  have hplain : ∀ part ∈ options.map (fun option => encode option.1 ++ '=' :: encode option.2),
      '&' ∉ part := by
    intro part hpart
    obtain ⟨option, -, rfl⟩ := List.mem_map.mp hpart
    simp [henc.not_mem _ (show '&' ∈ delimiters by decide)]
  rw [pairs, printPairs, List.splitOn_intercalate _ hplain (by simpa using hne)]
  clear hplain hne
  induction options with
  | nil => rfl
  | cons option options ih => simp [pair_print henc, ih]

/-- No delimiter but those of its own level is in a printed list of pairs. -/
theorem printPairs_not_mem (henc : Encodes encode) {options : List (String × String)} {c : Char}
    (hc : c ∈ delimiters) (hamp : c ≠ '&') (heq : c ≠ '=') : c ∉ printPairs encode options := by
  unfold printPairs
  induction options with
  | nil => simp
  | cons option options ih =>
    have hpair : c ∉ encode option.1 ++ '=' :: encode option.2 := by
      simp [henc.not_mem _ hc, heq]
    cases options with
    | nil => simpa using hpair
    | cons next options =>
      rw [List.map_cons, List.map_cons, List.intercalate_cons_cons]
      generalize encode option.1 ++ '=' :: encode option.2 = part at hpair ⊢
      simpa [hpair, hamp] using ih

theorem userinfo_print (henc : Encodes encode) (user : String) (password : Option String) :
    ∃ cs, printUser encode (some (user, password)) = cs ++ ['@'] ∧ '@' ∉ cs ∧
      userinfo cs = some (user, password) := by
  have huser := henc.not_mem user (show ':' ∈ delimiters by decide)
  have hat := henc.not_mem user (show '@' ∈ delimiters by decide)
  cases password with
  | none =>
    refine ⟨encode user, rfl, hat, ?_⟩
    rw [userinfo, List.splitOn_eq_singleton huser]
    simp [henc.decode]
  | some password =>
    refine ⟨encode user ++ ':' :: encode password, rfl, ?_, ?_⟩
    · simp [hat, henc.not_mem password (show '@' ∈ delimiters by decide)]
    · rw [userinfo, List.splitOn_append_cons_self_of_not_mem huser,
        List.splitOn_eq_singleton (henc.not_mem password (by decide))]
      simp [henc.decode]

theorem toDigits_not_mem {c : Char} (hc : c.isDigit = false) (n : Nat) : c ∉ Nat.toDigits 10 n := by
  intro hmem
  have hdigit := List.all_eq_true.mp (Decimal.toDigits_isDigit n) c hmem
  cases hc.symm.trans hdigit

theorem location_print (henc : Encodes encode) {host : String} (port : Nat)
    {options : List (String × String)} (hne : options ≠ [])
    (hhost : ∀ c ∈ host.toList, c ∉ ['/', '?', '#', '@', ':', '&', '%']) :
    location (host.toList ++ ':' :: Nat.toDigits 10 port ++ '/' :: '?' :: printPairs encode options) =
      some (host, port, options) := by
  have hhost' {c : Char} (hc : c ∈ ['/', '?', '#', '@', ':', '&', '%']) : c ∉ host.toList :=
    fun hmem => hhost c hmem hc
  have haddress : '/' ∉ host.toList ++ ':' :: Nat.toDigits 10 port := by
    simp [hhost' (show '/' ∈ _ by decide), toDigits_not_mem (c := '/') (by decide)]
  have hoptions : '/' ∉ '?' :: printPairs encode options := by
    simp [printPairs_not_mem henc (c := '/') (by decide) (by decide) (by decide)]
  rw [location, List.splitOn_append_cons_self_of_not_mem haddress, List.splitOn_eq_singleton hoptions]
  have hport : hostPort (host.toList ++ ':' :: Nat.toDigits 10 port) = some (host, port) := by
    rw [hostPort, List.splitOn_append_cons_self_of_not_mem (hhost' (by decide)),
      List.splitOn_eq_singleton (toDigits_not_mem (by decide) port)]
    simp [decode_plain (hhost' (show '%' ∈ _ by decide)), Decimal.readDigits_toDigits]
  simp [hport, pairs_print henc options hne]

/-- What is printed is read back, each part as it was, whatever is in it. -/
theorem parts_print (henc : Encodes encode) (ps : Parts) (hne : ps.options ≠ [])
    (hhost : ∀ c ∈ ps.host.toList, c ∉ ['/', '?', '#', '@', ':', '&', '%']) :
    parts (print encode ps) = some ps := by
  have hhost' : '@' ∉ ps.host.toList := fun hmem => hhost '@' hmem (by decide)
  have hat : '@' ∉ ps.host.toList ++ ':' :: Nat.toDigits 10 ps.port ++
      '/' :: '?' :: printPairs encode ps.options := by
    simp [hhost', toDigits_not_mem (c := '@') (by decide),
      printPairs_not_mem henc (c := '@') (by decide) (by decide) (by decide)]
  have hlocation := location_print henc ps.port hne hhost
  have hprint : print encode ps = printUser encode ps.user ++ (ps.host.toList ++
      ':' :: Nat.toDigits 10 ps.port ++ '/' :: '?' :: printPairs encode ps.options) := by
    simp [print]
  rw [hprint]
  generalize ps.host.toList ++ ':' :: Nat.toDigits 10 ps.port ++
    '/' :: '?' :: printPairs encode ps.options = rest at hat hlocation
  obtain ⟨user, host, port, options⟩ := ps
  cases user with
  | none =>
    rw [parts, printUser, List.nil_append, List.splitOn_eq_singleton hat]
    simp [hlocation]
  | some user =>
    obtain ⟨user, password⟩ := user
    obtain ⟨cs, hcs, hcsat, huser⟩ := userinfo_print henc user password
    rw [parts, hcs, List.append_assoc, List.singleton_append,
      List.splitOn_append_cons_self_of_not_mem hcsat, List.splitOn_eq_singleton hat]
    simp [huser, hlocation]

theorem parseForm_print (henc : Encodes encode) (options : List (String × String)) (hne : options ≠ []) :
    parseForm (.ofList (printPairs encode options)) = some options := by
  have hplus : ∀ c ∈ printPairs encode options, (if c = '+' then ' ' else c) = c := by
    intro c hc
    apply if_neg
    rintro rfl
    exact printPairs_not_mem henc (c := '+') (by decide) (by decide) (by decide) hc
  rw [parseForm, String.toList_ofList, List.map_congr_left hplus, List.map_id']
  exact pairs_print henc options hne

end

end Framework.ConnectionString

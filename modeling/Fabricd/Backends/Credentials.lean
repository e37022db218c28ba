import Fabricd.Framework.ConnectionString
import Fabricd.Backends.Outages

/-!
# Credentials in a connection string

What the connection string of a `mongo` config and the introspection body of a token say when
they are read by their grammars, whatever characters the parts are made of.
-/

namespace Fabricd.Mongo

open Framework Framework.ConnectionString

/-! ## The encoding -/

private theorem alphanumeric_char (n : Nat) (hn : n < 256)
    (h : isAlphanumeric (UInt8.ofNat n) = true) :
    String.utf8EncodeChar (Char.ofNat n) = [UInt8.ofNat n] ∧ Char.ofNat n ≠ '%' ∧
      Char.ofNat n ∉ delimiters := by
  revert n
  decide +kernel

private theorem hexDigit_char (n : Nat) (hn : n < 16) :
    hexValue (hexDigit n) = some n ∧ hexDigit n ∉ delimiters := by
  revert n
  decide

private theorem encodeByte_plain (b : UInt8) : ∀ c ∈ encodeByte b, c ∉ delimiters := by
  intro c hc
  unfold encodeByte at hc
  split at hc
  · rename_i hkept
    cases List.mem_singleton.mp hc
    exact (alphanumeric_char b.toNat b.toNat_lt (by simpa using hkept)).2.2
  · have hb := b.toNat_lt
    simp only [List.mem_cons, List.not_mem_nil, or_false] at hc
    rcases hc with rfl | rfl | rfl
    · decide
    · exact (hexDigit_char _ (by omega)).2
    · exact (hexDigit_char _ (by omega)).2

private theorem decodeBytes_encodeByte (b : UInt8) (rest : List Char) :
    decodeBytes (encodeByte b ++ rest) = (decodeBytes rest).map (b :: ·) := by
  have hb := b.toNat_lt
  unfold encodeByte
  split
  · rename_i hkept
    obtain ⟨hutf8, hpercent, -⟩ := alphanumeric_char b.toNat b.toNat_lt (by simpa using hkept)
    rw [List.singleton_append, decodeBytes_char hpercent, hutf8, UInt8.ofNat_toNat]
    rfl
  · have hbyte : b.toNat / 16 * 16 + b.toNat % 16 = b.toNat := by omega
    have htriplet := decodeBytes_triplet (hexDigit_char (b.toNat / 16) (by omega)).1
      (hexDigit_char (b.toNat % 16) (by omega)).1 rest
    rw [hbyte, UInt8.ofNat_toNat] at htriplet
    exact htriplet

private theorem decodeBytes_encode (bytes : List UInt8) :
    decodeBytes (bytes.flatMap encodeByte) = some bytes := by
  induction bytes with
  | nil => rfl
  | cons b bytes ih =>
    rw [List.flatMap_cons, decodeBytes_encodeByte, ih]
    rfl

private theorem encode_encodes : Encodes fun text => (encode text).toList where
  plain := by
    intro text c hc
    rw [encode, String.toList_ofList, List.mem_flatMap] at hc
    obtain ⟨b, -, hb⟩ := hc
    exact encodeByte_plain b c hb
  decode := by
    intro text
    rw [encode, String.toList_ofList, ConnectionString.decode, decodeBytes_encode]
    exact ofUtf8_utf8Bytes text

/-! ## The connection string -/

/-- What a config says: its values, and the options it fixes. -/
def MongoConfig.parts (config : MongoConfig) : Parts where
  user := config.username.map fun username => (username, config.password)
  host := config.host
  port := config.port.toNat
  options :=
    [("directConnection", "true"), ("appName", "runlet"), ("connectTimeoutMS", "5000"),
      ("serverSelectionTimeoutMS", "5000")] ++
      (if config.username.isSome then [("authSource", config.authSource)] else []) ++
      (if config.tls then ("tls", "true") :: (config.caCert.map fun ca => ("tlsCAFile", ca)).toList
      else [])

private theorem encode_fixed :
    ∀ text ∈ ["directConnection", "true", "appName", "runlet", "connectTimeoutMS", "5000",
      "serverSelectionTimeoutMS", "authSource", "tls", "tlsCAFile"], encode text = text := by
  decide +kernel

private theorem buildUri_print (config : MongoConfig) :
    (buildUri config).toList =
      "mongodb://".toList ++ print (fun text => (encode text).toList) config.parts := by
  have hport : (toString config.port).toList = Nat.toDigits 10 config.port.toNat := by
    show (Nat.repr config.port.toNat).toList = _
    rw [Nat.repr, String.toList_ofList]
  have hfixed := encode_fixed
  simp only [List.forall_mem_cons, List.not_mem_nil, false_implies, implies_true, and_true] at hfixed
  obtain ⟨hdirect, htrue, happ, hrunlet, hconnect, h5000, hselect, hauth, htls, hca⟩ := hfixed
  unfold buildUri print MongoConfig.parts
  rw [List.cons_append, List.cons_append, printPairs_cons]
  cases config.username <;> cases config.password <;> cases config.tls <;> cases config.caCert <;>
    simp [printUser, printRest, hport, hdirect, htrue, happ, hrunlet, hconnect, h5000, hselect, hauth,
      htls, hca]

private theorem parse_buildUri {config : MongoConfig}
    (hhost : ∀ c ∈ config.host.toList, c ∉ ['/', '?', '#', '@', ':', '&', '%']) :
    parse "mongodb" (buildUri config) = some config.parts := by
  have hscheme : ("mongodb" ++ "://").toList = "mongodb://".toList := rfl
  have hstart : ("mongodb://".toList == "mongodb://".toList) = true := by simp
  rw [parse, hscheme, buildUri_print, List.dropPrefix?_append_of_beq _ hstart]
  exact parts_print encode_encodes config.parts (by simp [MongoConfig.parts]) hhost

/-! ## The introspection body -/

private theorem parseForm_token (token : String) :
    parseForm ("token=" ++ encode token) = some [("token", token)] := by
  have htoken : encode "token" = "token" := by decide +kernel
  have hprint := parseForm_print encode_encodes [("token", token)] (List.cons_ne_nil _ _)
  have hform : "token=" ++ encode token =
      .ofList (printPairs (fun text => (encode text).toList) [("token", token)]) := by
    apply String.toList_inj.mp
    simp [printPairs_cons, printRest, htoken]
  rw [hform]
  exact parseForm_print encode_encodes _ (List.cons_ne_nil _ _)

private theorem posted_token {lib : Lib} {backend last : Auth.AuthBackend} {action token : String}
    {es : List (Event Fx)} {result : Except EgressError String}
    (hrun : Prog.Steps (backend.call lib action token) es (.ret (result, last)))
    {x : Auth.Exchange} (hx : x ∈ Auth.exchanges es) {url clientId clientSecret body : String}
    (hform : x.request = .postForm url clientId clientSecret body) :
    parseForm body = some [("token", token)] := by
  obtain ⟨-, outcome, -, hcalled⟩ := Auth.call_called hrun
  generalize Auth.exchanges es = xs at hx hcalled
  generalize last.state.discovery = left at hcalled
  cases hcalled with
  | unreached err haccess => cases hx
  | reached haccess hran =>
    rcases List.mem_append.mp hx with hds | hts
    · have hdiscovery := hran.discovery.request x hds
      cases hform.symm.trans hdiscovery
    · obtain ⟨url', -, hrequest⟩ := hran.asked.requests x hts
      rcases Auth.accessOf_cases haccess with ⟨-, rfl⟩ | ⟨-, rfl, -⟩
      · cases hform.symm.trans hrequest
      · cases hform.symm.trans hrequest
        exact parseForm_token token

/-- A connection string says what its config says and a form posts the token of its call,
whatever is in the values. -/
theorem credentials_contained {config : MongoConfig}
    (hhost : ∀ c ∈ config.host.toList, c ∉ ['/', '?', '#', '@', ':', '&', '%'])
    {lib : Lib} {backend last : Auth.AuthBackend} {action token : String} {es : List (Event Fx)}
    {result : Except EgressError String}
    (hrun : Prog.Steps (backend.call lib action token) es (.ret (result, last))) :
    parse "mongodb" (buildUri config) = some config.parts ∧
      ∀ x ∈ Auth.exchanges es, ∀ url clientId clientSecret body,
        x.request = .postForm url clientId clientSecret body →
          parseForm body = some [("token", token)] :=
  ⟨parse_buildUri hhost, fun _ hx _ _ _ _ hform => posted_token hrun hx hform⟩

def slyConfig : MongoConfig :=
  { host := "db.test", port := 27017, username := some "a@b:c/d", password := some "p&tls=false?",
    database := "app", authSource := "x&authSource=y", tls := true, caCert := some "/etc/ca.pem",
    opTimeoutMs := 0, maxDocs := 100 }

/-- A backend that introspects at one endpoint. -/
def slyBackend : Auth.AuthBackend :=
  ⟨⟨0, ⟨"https://issuer.test", none, some "https://issuer.test/introspect", "runlet", "secret", 5000⟩,
    none⟩, "issuer.test", []⟩

/-- The credentials and the token are full of delimiters. -/
theorem credentials_contained_sly :
    (∃ ps, parse "mongodb" (buildUri slyConfig) = some ps ∧
      ps.options.lookup "authSource" = some "x&authSource=y" ∧ ps.options.length = 7) ∧
    ∃ es result last, Prog.Steps (slyBackend.call Lib.rejecting "introspect" "t&token=u") es
        (.ret (result, last)) ∧ (Auth.exchanges es).length = 1 ∧
      ∀ x ∈ Auth.exchanges es, ∀ url clientId clientSecret body,
        x.request = .postForm url clientId clientSecret body →
          parseForm body = some [("token", "t&token=u")] := by
  have hrun : Prog.Steps (slyBackend.call Lib.rejecting "introspect" "t&token=u")
      [tick 1, (Auth.Exchange.mk (Auth.introspection.request slyBackend.state.config "t&token=u"
        "https://issuer.test/introspect") (.ok (500, .ok ""))).event 0, tick 5] (.ret _) :=
    .act (.act (.act (.refl _)))
  have hhost : ∀ c ∈ slyConfig.host.toList, c ∉ ['/', '?', '#', '@', ':', '&', '%'] := by
    simp [slyConfig]
  obtain ⟨hparse, hposted⟩ := credentials_contained hhost hrun
  exact ⟨⟨_, hparse, by decide, by decide⟩, _, _, _, hrun, rfl, hposted⟩

end Fabricd.Mongo

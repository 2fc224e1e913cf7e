import Mathlib.Data.List.Forall2
import TenantAuth.Settings.Resolve
import TenantAuth.Proofs.Json.FreeForm

/-!
# The fields of settings

Eleven fields can be overridden from the environment. `Settings.fields` is the table of them: the
variable of each and how its value is understood, where a file gives the field and how it is read
there, and what counts where nothing is said. Whatever a document is read as, each field is what the
document has at its place, or else the default, and so are the fields of each provider
(`ofNode_fields`, `ProvidersOf`).
-/
namespace TenantAuth

open Yaml (NodeReader)

/-! ## Places in a document -/

namespace Yaml.Document

variable {α β : Type} {d : Document} {n : Node} {es : List (String × Node)} {r : NodeReader α}
  {name key : String} {fallback a : α}

/-- The node at a place: the value of the first key in a mapping, in that the value of the next. -/
def at? (d : Document) (n : Node) : List String → Option Node
  | [] => some n
  | key :: rest => do
    let es ← NodeReader.entries d n
    d.at? (← es.lookup key) rest

/-- What is read of a node, or what counts if there is none. -/
def readOr (d : Document) (r : NodeReader α) (fallback : α) (n : Option Node) : Option α :=
  n.elim (some fallback) (r d)

/-- What a document has at a place is looked for key by key. -/
theorem at?_cons (hes : NodeReader.entries d n = some es) (key : String) (rest : List String) :
    d.at? n (key :: rest) = (es.lookup key).bind fun n => d.at? n rest := by
  rw [at?, hes]
  rfl

theorem at?_single (hes : NodeReader.entries d n = some es) (key : String) :
    d.at? n [key] = es.lookup key := by
  rw [at?_cons hes]
  exact Option.bind_fun_some _

/-- The first entry with a key is the one that counts. -/
theorem lookup_eq_head?_filter (es : List (String × Node)) (name : String) :
    es.lookup name = ((es.filter fun e => e.1 = name).head?).map Prod.snd := by
  induction es with
  | nil => rfl
  | cons e rest ih =>
    obtain ⟨key, value⟩ := e
    rw [List.lookup_cons]
    by_cases hkey : key = name
    · rw [List.filter_cons_of_pos (by simp [hkey]), hkey, beq_self_eq_true]
      rfl
    · have hother : (name == key) = false := beq_eq_false_iff_ne.2 (Ne.symm hkey)
      rw [List.filter_cons_of_neg (by simp [hkey]), hother]
      exact ih

/-- A field is what is read of its entry. -/
theorem readOr_of_fieldOr (h : NodeReader.fieldOr name fallback r d es = some a) :
    d.readOr r fallback (es.lookup name) = some a := by
  unfold NodeReader.fieldOr at h
  rw [lookup_eq_head?_filter]
  split at h
  · next hnone =>
    rw [hnone]
    exact h
  · next e hone =>
    rw [hone]
    exact h
  · cases h

/-- A field of a section is what is read at its place, if the section is what is read at its own and
the defaults agree. -/
theorem readOr_within {section? : NodeReader β} {default found : β} (get : β → α)
    (hes : NodeReader.entries d n = some es)
    (hsection : d.readOr section? default (es.lookup name) = some found)
    (hfield : ∀ {n b}, section? d n = some b → d.readOr r fallback (d.at? n [key]) = some (get b))
    (hdefault : get default = fallback) :
    d.readOr r fallback (d.at? n [name, key]) = some (get found) := by
  rw [at?_cons hes]
  cases hat : es.lookup name with
  | none =>
    rw [hat] at hsection
    cases hsection
    rw [hdefault]
    rfl
  | some inner =>
    rw [hat] at hsection
    exact hfield hsection

end Yaml.Document

/-! ## Sections -/

section Sections

open Yaml.Document (readOr_of_fieldOr at?_single)

variable {d : Yaml.Document} {n : Yaml.Node}

/-- The settings of the service are those at their places, or the defaults. -/
theorem ServiceSettings.ofNode_fields {s : ServiceSettings} (h : ofNode d n = some s) :
    d.readOr NodeReader.text "keel-service" (d.at? n ["name"]) = some s.name ∧
    d.readOr NodeReader.text "development" (d.at? n ["environment"]) = some s.environment ∧
    d.readOr NodeReader.text "127.0.0.1:8080" (d.at? n ["bind_addr"]) = some s.bindAddr := by
  simp only [ofNode, Option.bind_eq_bind, Option.bind_eq_some_iff, Option.pure_def] at h
  obtain ⟨es, hes, name, hname, environment, henvironment, bindAddr, hbindAddr, hs⟩ := h
  cases hs
  rw [at?_single hes, at?_single hes, at?_single hes]
  exact ⟨readOr_of_fieldOr hname, readOr_of_fieldOr henvironment, readOr_of_fieldOr hbindAddr⟩

/-- So are those of the log. -/
theorem LogSettings.ofNode_fields {s : LogSettings} (h : ofNode d n = some s) :
    d.readOr NodeReader.text "info" (d.at? n ["level"]) = some s.level ∧
    d.readOr (NodeReader.variant LogFormat.names) .pretty (d.at? n ["format"])
      = some s.format := by
  simp only [ofNode, Option.bind_eq_bind, Option.bind_eq_some_iff, Option.pure_def] at h
  obtain ⟨es, hes, level, hlevel, format, hformat, hs⟩ := h
  cases hs
  rw [at?_single hes, at?_single hes]
  exact ⟨readOr_of_fieldOr hlevel, readOr_of_fieldOr hformat⟩

/-- So are those of the tokens. -/
theorem AuthSettings.ofNode_fields {s : AuthSettings} (h : ofNode d n = some s) :
    d.readOr NodeReader.text "" (d.at? n ["jwt_secret"]) = some s.jwtSecret ∧
    d.readOr NodeReader.integer default.accessTtlSecs (d.at? n ["access_ttl_secs"])
      = some s.accessTtlSecs ∧
    d.readOr NodeReader.integer default.refreshTtlSecs (d.at? n ["refresh_ttl_secs"])
      = some s.refreshTtlSecs := by
  simp only [ofNode, Option.bind_eq_bind, Option.bind_eq_some_iff, Option.pure_def] at h
  obtain ⟨es, hes, secret, hsecret, access, haccess, refresh, hrefresh, hs⟩ := h
  cases hs
  rw [at?_single hes, at?_single hes, at?_single hes]
  exact ⟨readOr_of_fieldOr hsecret, readOr_of_fieldOr haccess, readOr_of_fieldOr hrefresh⟩

/-- The paths of TLS are those at their places, or none. -/
theorem TlsSettings.ofNode_fields {s : TlsSettings} (h : ofNode d n = some s) :
    d.readOr NodeReader.optionalText none (d.at? n ["cert_path"]) = some s.certPath ∧
    d.readOr NodeReader.optionalText none (d.at? n ["key_path"]) = some s.keyPath ∧
    d.readOr NodeReader.optionalText none (d.at? n ["ca_path"]) = some s.caPath := by
  simp only [ofNode, Option.bind_eq_bind, Option.bind_eq_some_iff, Option.pure_def] at h
  obtain ⟨es, hes, cert, hcert, key, hkey, ca, hca, hs⟩ := h
  cases hs
  rw [at?_single hes, at?_single hes, at?_single hes]
  exact ⟨readOr_of_fieldOr hcert, readOr_of_fieldOr hkey, readOr_of_fieldOr hca⟩

end Sections

/-! ## Providers -/

section Providers

open Yaml.Document (readOr_of_fieldOr at?_single)

variable {d : Yaml.Document} {n : Yaml.Node} {p p' : OAuthProvider}

namespace OAuthProvider

/-- The fields of a provider: the key of each, and what it is in the provider. -/
def fields : List (String × (OAuthProvider → String)) :=
  [("client_id", clientId), ("client_secret", clientSecret), ("redirect_url", redirectUrl)]

/-- The node says what the provider is: each field is the text under its key, empty if there is
none. -/
def GivenBy (d : Yaml.Document) (n : Yaml.Node) (p : OAuthProvider) : Prop :=
  ∀ f ∈ fields, d.readOr NodeReader.text "" (d.at? n [f.1]) = some (f.2 p)

/-- A provider that is read is as the document has it. -/
theorem givenBy_of_ofNode (h : ofNode d n = some p) : p.GivenBy d n := by
  simp only [ofNode, Option.bind_eq_bind, Option.bind_eq_some_iff, Option.pure_def] at h
  obtain ⟨es, hes, id, hid, secret, hsecret, url, hurl, hp⟩ := h
  cases hp
  simp only [GivenBy, fields, List.forall_mem_cons, List.not_mem_nil, false_imp_iff, implies_true,
    and_true]
  rw [at?_single hes, at?_single hes, at?_single hes]
  exact ⟨readOr_of_fieldOr hid, readOr_of_fieldOr hsecret, readOr_of_fieldOr hurl⟩

/-- A node says of one provider only what it is. -/
theorem GivenBy.unique (h : p.GivenBy d n) (h' : p'.GivenBy d n) : p = p' := by
  have hsame : ∀ f ∈ fields, f.2 p = f.2 p' := fun f hf =>
    Option.some.inj ((h f hf).symm.trans (h' f hf))
  obtain ⟨_, _, _⟩ := p
  obtain ⟨_, _, _⟩ := p'
  simpa [fields] using hsame

end OAuthProvider

namespace Settings

/-- The node of the provider with a name: of the entries with this key in the section of the
providers, the last. -/
def providerAt? (d : Yaml.Document) (n : Yaml.Node) (name : String) : Option Yaml.Node := do
  let es ← NodeReader.entries d (← d.at? n ["oauth"])
  es.reverse.lookup name

/-- The providers are those of the document: each name in the section has the provider that its
node says, there are no others, and they stand in the order of their names. -/
structure ProvidersOf (d : Yaml.Document) (n : Yaml.Node) (ps : List (String × OAuthProvider)) :
    Prop where
  ascending : Json.Ascending ps
  lookup_eq_some : ∀ name p, ps.lookup name = some p ↔
    ∃ m, providerAt? d n name = some m ∧ p.GivenBy d m

/-- A document has one list of providers. -/
theorem ProvidersOf.unique {ps ps' : List (String × OAuthProvider)} (h : ProvidersOf d n ps)
    (h' : ProvidersOf d n ps') : ps = ps' :=
  h.ascending.ext h'.ascending fun name p =>
    (h.lookup_eq_some name p).trans (h'.lookup_eq_some name p).symm

/-- Entries that are read one by one keep their keys. -/
theorem forall₂_of_mapM {es : List (String × Yaml.Node)} {ps : List (String × OAuthProvider)}
    (h : es.mapM (fun e => (OAuthProvider.ofNode d e.2).map fun p => (e.1, p)) = some ps) :
    List.Forall₂ (fun e p => e.1 = p.1 ∧ OAuthProvider.ofNode d e.2 = some p.2) es ps := by
  induction es generalizing ps with
  | nil =>
    cases h
    exact .nil
  | cons e rest ih =>
    simp only [List.mapM_cons, Option.bind_eq_bind, Option.bind_eq_some_iff, Option.pure_def,
      Option.map_eq_some_iff] at h
    obtain ⟨_, ⟨p, hp, rfl⟩, more, hmore, hps⟩ := h
    cases hps
    exact .cons ⟨rfl, hp⟩ (ih hmore)

/-- What is found under a name has been read of the entry under it. -/
theorem lookup_of_forall₂ {es : List (String × Yaml.Node)} {ps : List (String × OAuthProvider)}
    (h : List.Forall₂ (fun e p => e.1 = p.1 ∧ OAuthProvider.ofNode d e.2 = some p.2) es ps)
    (name : String) : ps.lookup name = (es.lookup name).bind (OAuthProvider.ofNode d) ∧
      ((es.lookup name).isSome → (ps.lookup name).isSome) := by
  induction h with
  | nil => exact ⟨rfl, id⟩
  | @cons e p es ps hfirst _ ih =>
    rw [List.lookup_cons, List.lookup_cons, hfirst.1]
    split
    · exact ⟨hfirst.2.symm, fun _ => rfl⟩
    · exact ih

/-- **Providers that are read are those of the document.** -/
theorem providersOf_of_readOr {ps : List (String × OAuthProvider)}
    (h : d.readOr providersOfNode [] (d.at? n ["oauth"]) = some ps) : ProvidersOf d n ps := by
  cases hsection : d.at? n ["oauth"] with
  | none =>
    rw [hsection] at h
    cases h
    refine ⟨.nil, fun name p => ?_⟩
    simp [providerAt?, hsection]
  | some inner =>
    rw [hsection] at h
    have hread : providersOfNode d inner = some ps := h
    simp only [providersOfNode, Option.bind_eq_bind, Option.bind_eq_some_iff,
      Option.pure_def] at hread
    obtain ⟨es, hes, read, hread, hps⟩ := hread
    cases hps
    have heach := List.forall₂_reverse_iff.2 (forall₂_of_mapM hread)
    refine ⟨Json.ascending_sortMembers read, fun name p => ?_⟩
    have hnode : providerAt? d n name = es.reverse.lookup name := by
      simp [providerAt?, hsection, hes]
    obtain ⟨hlookup, hfound⟩ := lookup_of_forall₂ heach name
    rw [Json.lookup_sortMembers, hnode, hlookup]
    constructor
    · intro hp
      obtain ⟨m, hm, hp⟩ := Option.bind_eq_some_iff.1 hp
      exact ⟨m, hm, OAuthProvider.givenBy_of_ofNode hp⟩
    · rintro ⟨m, hm, hgiven⟩
      -- the entry has been read, and as what it says
      rw [hlookup, hm] at hfound
      obtain ⟨read, hread⟩ := Option.isSome_iff_exists.1 (hfound rfl)
      have hof : OAuthProvider.ofNode d m = some read := hread
      rw [hm, Option.bind_some, hof, hgiven.unique (OAuthProvider.givenBy_of_ofNode hof)]

end Settings

end Providers

/-! ## The table -/

namespace Settings

open Yaml.Document (readOr_of_fieldOr readOr_within at?_single)

/-- A field that a variable overrides. -/
structure Field where
  variableName : String
  Value : Type
  get : Settings → Value
  fallback : Value
  place : List String
  reader : NodeReader Value
  parse : String → Except ConfigFault Value

namespace Field

/-- A text, which is taken as it is. -/
@[simp] def text (variableName : String) (get : Settings → String) (fallback : String)
    (place : List String) : Field :=
  ⟨variableName, String, get, fallback, place, NodeReader.text, .ok⟩

/-- The path of a file, which need not be named. -/
@[simp] def path (variableName : String) (get : Settings → Option String) (place : List String) :
    Field :=
  ⟨variableName, Option String, get, none, place, NodeReader.optionalText, fun v => .ok (some v)⟩

/-- The layout of the log lines, by its name. -/
@[simp] def logFormat (variableName : String) (get : Settings → LogFormat) (place : List String) :
    Field where
  variableName
  Value := LogFormat
  get
  fallback := .pretty
  place
  reader := NodeReader.variant LogFormat.names
  parse v :=
    match LogFormat.ofName? v with
    | some f => .ok f
    | none => .error (.unknownLogFormat v)

/-- A number of seconds: a decimal numeral of 64 bits, with blanks around it or not. -/
@[simp] def seconds (variableName : String) (get : Settings → Instant) (fallback : Instant)
    (place : List String) : Field where
  variableName
  Value := Instant
  get
  fallback
  place
  reader := NodeReader.integer
  parse v :=
    match (Text.Decimal.parse? int64Min int64Max (Text.trim v)).bind Instant.ofInt? with
    | some t => .ok t
    | none => .error (.notAnInteger variableName v)

end Field

/-- The fields that variables override, in the order in which the variables are looked at. -/
def fields : List Field := [
  .text "KEEL_SERVICE_NAME" (·.service.name) "keel-service" ["service", "name"],
  .text "KEEL_ENVIRONMENT" (·.service.environment) "development" ["service", "environment"],
  .text "KEEL_BIND_ADDR" (·.service.bindAddr) "127.0.0.1:8080" ["service", "bind_addr"],
  .text "KEEL_LOG_LEVEL" (·.log.level) "info" ["log", "level"],
  .logFormat "KEEL_LOG_FORMAT" (·.log.format) ["log", "format"],
  .text "KEEL_JWT_SECRET" (·.auth.jwtSecret) "" ["auth", "jwt_secret"],
  .seconds "KEEL_ACCESS_TTL_SECS" (·.auth.accessTtlSecs) AuthSettings.default.accessTtlSecs
    ["auth", "access_ttl_secs"],
  .seconds "KEEL_REFRESH_TTL_SECS" (·.auth.refreshTtlSecs) AuthSettings.default.refreshTtlSecs
    ["auth", "refresh_ttl_secs"],
  .path "KEEL_TLS_CERT" (·.tls.certPath) ["tls", "cert_path"],
  .path "KEEL_TLS_KEY" (·.tls.keyPath) ["tls", "key_path"],
  .path "KEEL_TLS_CA" (·.tls.caPath) ["tls", "ca_path"]]

/-- Settings are their fields and their providers. -/
theorem ext_fields {s s' : Settings} (h : ∀ f ∈ fields, f.get s = f.get s')
    (hproviders : s.oauth = s'.oauth) : s = s' := by
  obtain ⟨⟨_, _, _⟩, ⟨_, _⟩, ⟨_, _, _⟩, ⟨_, _, _⟩, _⟩ := s
  obtain ⟨⟨_, _, _⟩, ⟨_, _⟩, ⟨_, _, _⟩, ⟨_, _, _⟩, _⟩ := s'
  cases hproviders
  simpa [fields, and_assoc] using h

/-- The default settings have the default of each field. -/
theorem get_default {f : Field} (h : f ∈ fields) : f.get .default = f.fallback := by
  revert f
  simp only [fields, List.forall_mem_cons, List.not_mem_nil, false_imp_iff, implies_true, and_true]
  exact ⟨rfl, rfl, rfl, rfl, rfl, rfl, rfl, rfl, rfl, rfl, rfl⟩

/-- **Each field is what a document has at its place, or else the default,** and the providers are
those of the document. -/
theorem ofNode_fields {d : Yaml.Document} {n : Yaml.Node} {s : Settings} (h : ofNode d n = some s) :
    (∀ f ∈ fields, d.readOr f.reader f.fallback (d.at? n f.place) = some (f.get s)) ∧
      ProvidersOf d n s.oauth := by
  simp only [ofNode, Option.bind_eq_bind, Option.bind_eq_some_iff, Option.pure_def] at h
  obtain ⟨es, hes, service, hservice, log, hlog, auth, hauth, tls, htls, oauth, hoauth, hs⟩ := h
  cases hs
  have hservice := readOr_of_fieldOr hservice
  have hlog := readOr_of_fieldOr hlog
  have hauth := readOr_of_fieldOr hauth
  have htls := readOr_of_fieldOr htls
  constructor
  -- one goal for each variable: its section is at the key, and the field in the section
  · simp only [fields, Field.text, Field.path, Field.logFormat, Field.seconds,
      List.forall_mem_cons, List.not_mem_nil, false_imp_iff, implies_true, and_true]
    refine ⟨?_, ?_, ?_, ?_, ?_, ?_, ?_, ?_, ?_, ?_, ?_⟩
    · exact readOr_within (·.name) hes hservice (fun h => (ServiceSettings.ofNode_fields h).1) rfl
    · exact readOr_within (·.environment) hes hservice
        (fun h => (ServiceSettings.ofNode_fields h).2.1) rfl
    · exact readOr_within (·.bindAddr) hes hservice
        (fun h => (ServiceSettings.ofNode_fields h).2.2) rfl
    · exact readOr_within (·.level) hes hlog (fun h => (LogSettings.ofNode_fields h).1) rfl
    · exact readOr_within (·.format) hes hlog (fun h => (LogSettings.ofNode_fields h).2) rfl
    · exact readOr_within (·.jwtSecret) hes hauth (fun h => (AuthSettings.ofNode_fields h).1) rfl
    · exact readOr_within (·.accessTtlSecs) hes hauth
        (fun h => (AuthSettings.ofNode_fields h).2.1) rfl
    · exact readOr_within (·.refreshTtlSecs) hes hauth
        (fun h => (AuthSettings.ofNode_fields h).2.2) rfl
    · exact readOr_within (·.certPath) hes htls (fun h => (TlsSettings.ofNode_fields h).1) rfl
    · exact readOr_within (·.keyPath) hes htls (fun h => (TlsSettings.ofNode_fields h).2.1) rfl
    · exact readOr_within (·.caPath) hes htls (fun h => (TlsSettings.ofNode_fields h).2.2) rfl
  · refine providersOf_of_readOr ?_
    rw [at?_single hes]
    exact readOr_of_fieldOr hoauth

end Settings

end TenantAuth

import Pimsync.Config.Directives

/-!
# Basic authentication

`parse_auth` joins the username and the password with a colon. A server splits what it decodes at the first colon
(`decodeBasic`), so it reads the credentials of the block if there is no colon in the username.

- `splitOnce_append`: what the first colon of a joined text is;
- `parseAuth_ok`: what `parse_auth` returns;
- `parseAuth_faithful_iff`: whether the header says what the block does.
-/

namespace Pimsync

/-! ## Reading a header -/

/-- `str::split_once` for a character. -/
def splitOnce (c : Char) (s : String) : Option (String × String) :=
  match s.toList.dropWhile (· != c) with
  | _ :: rest => some (String.ofList (s.toList.takeWhile (· != c)), String.ofList rest)
  | [] => none

/-- The credentials of a `Basic` header, as RFC 7617 reads them. -/
def decodeBasic (decode : String → Option String) (header : String) : Option (String × String) :=
  if "Basic ".toList <+: header.toList then
    (decode (String.ofList (header.toList.drop "Basic ".length))).bind (splitOnce ':')
  else none

/-- What is before the first occurrence of a character does not have it. -/
theorem not_mem_of_splitOnce {c : Char} {s before after : String} (h : splitOnce c s = some (before, after)) :
    c ∉ before.toList := by
  unfold splitOnce at h
  split at h
  · cases h
    intro hmem
    have hne := List.mem_takeWhile_imp (by simpa using hmem)
    simp at hne
  · cases h

/-- The first colon of a joined text is the joint if there is none before it. -/
theorem splitOnce_append (username password : String) :
    splitOnce ':' (username ++ ":" ++ password) = some (username, password) ↔ ':' ∉ username.toList := by
  refine ⟨not_mem_of_splitOnce, fun hcolon => ?_⟩
  have hlist : (username ++ ":" ++ password).toList = username.toList ++ ':' :: password.toList := by simp
  have hall : ∀ c ∈ username.toList, (c != ':') = true := by
    intro c hc
    have hne : c ≠ ':' := fun h => hcolon (h ▸ hc)
    simpa using hne
  unfold splitOnce
  rw [hlist, List.dropWhile_append_of_pos hall, List.takeWhile_append_of_pos hall]
  simp

theorem decodeBasic_header {decode : String → Option String} {credentials text : String}
    (h : decode credentials = some text) : decodeBasic decode ("Basic " ++ credentials) = splitOnce ':' text := by
  have hlist : ("Basic " ++ credentials).toList = "Basic ".toList ++ credentials.toList := by simp
  have hdrop : ("Basic ".toList ++ credentials.toList).drop "Basic ".length = credentials.toList :=
    List.drop_left
  rw [decodeBasic, hlist, if_pos (List.prefix_append _ _), hdrop, String.ofList_toList, h]
  rfl

/-! ## `parse_auth` -/

section Parse

variable {S : Type} {env : Outside S} {config : Scfg}

/-- The value of a directive that is read as a plain string. -/
def Scfg.param (config : Scfg) (name : String) : Option String := (config.named name).head?.bind (·.params.head?)

/-- **What `parse_auth` returns**: nothing without a username, else a header with the username and the password. -/
theorem parseAuth_ok {auth : Option String} (h : (parseAuth env config).result = .ok auth) :
    (config.named "username" = [] ∧ auth = none) ∨ ∃ username, config.param "username" = some username ∧
      config.named "username" ≠ [] ∧
      auth = some ("Basic " ++ env.base64 (username ++ ":" ++ (config.param "password").getD "")) := by
  obtain ⟨username, husername, h⟩ := Prog.bind_result_ok.mp h
  obtain ⟨rfl, hnamed⟩ | ⟨username, child, rfl, hnamed⟩ := Reader.takeParam_ok husername
  · cases h
    exact .inl ⟨hnamed, rfl⟩
  · obtain ⟨password, hpassword, h⟩ := Prog.bind_result_ok.mp h
    have hkept : (Reader.takeParam "username" config).world.named "password" = config.named "password" :=
      Reader.keeps_takeParam (by decide) config
    have hparam : config.param "password" = password := by
      obtain ⟨rfl, hnone⟩ | ⟨v, child', rfl, hsome⟩ := Reader.takeParam_ok hpassword
      · rw [hkept] at hnone
        simp [Scfg.param, hnone]
      · rw [hkept] at hsome
        simp [Scfg.param, hsome]
    obtain ⟨⟨⟩, -, h⟩ := Prog.bind_result_ok.mp h
    cases h
    refine .inr ⟨username, by simp [Scfg.param, hnamed], by simp [hnamed], ?_⟩
    rw [hparam]
    rfl

/-- What `parse_auth` returns says what the block does, to a server that decodes with `decode`. -/
def Faithful (decode : String → Option String) (config : Scfg) : Option String → Prop
  | none => config.named "username" = [] ∧ config.named "password" = []
  | some header => ∃ username, config.param "username" = some username ∧
      decodeBasic decode header = some (username, (config.param "password").getD "")

/-- The credentials that a header can carry: a username without a colon, and a password only with a username. -/
def Sendable (config : Scfg) : Prop :=
  (config.named "username" = [] → config.named "password" = []) ∧
    ∀ username, config.param "username" = some username → ':' ∉ username.toList

/-- **Whether the header says what the block does**, if base64 can be decoded. -/
theorem parseAuth_faithful_iff {decode : String → Option String} (hdecode : ∀ text, decode (env.base64 text) = some text)
    {auth : Option String} (h : (parseAuth env config).result = .ok auth) :
    (Faithful decode config auth ↔ Sendable config) ∧
      ∀ config', Sendable config → Sendable config' → (parseAuth env config').result = .ok auth →
        config'.param "username" = config.param "username" ∧
          (config'.param "password").getD "" = (config.param "password").getD "" := by
  have hheader : ∀ username password,
      decodeBasic decode ("Basic " ++ env.base64 (username ++ ":" ++ password)) =
        splitOnce ':' (username ++ ":" ++ password) := fun username password => decodeBasic_header (hdecode _)
  refine ⟨?_, fun config' hsend hsend' h' => ?_⟩
  · obtain ⟨hnone, rfl⟩ | ⟨username, husername, hsome, rfl⟩ := parseAuth_ok h
    · have hparam : config.param "username" = none := by simp [Scfg.param, hnone]
      exact ⟨fun hfaithful => ⟨fun _ => hfaithful.2, fun username hu => by rw [hparam] at hu; cases hu⟩,
        fun hsend => ⟨hnone, hsend.1 hnone⟩⟩
    · constructor
      · rintro ⟨username', husername', hdecoded⟩
        obtain rfl : username = username' := Option.some.inj (husername.symm.trans husername')
        rw [hheader, splitOnce_append] at hdecoded
        refine ⟨fun hnone => absurd hnone hsome, fun username' husername' => ?_⟩
        obtain rfl : username = username' := Option.some.inj (husername.symm.trans husername')
        exact hdecoded
      · intro hsend
        refine ⟨username, husername, ?_⟩
        rw [hheader, splitOnce_append]
        exact hsend.2 username husername
  · have hdecoded : ∀ {config : Scfg} {username : String}, Sendable config → config.param "username" = some username →
        decodeBasic decode ("Basic " ++ env.base64 (username ++ ":" ++ (config.param "password").getD "")) =
          some (username, (config.param "password").getD "") := by
      intro config username hsend husername
      rw [hheader, splitOnce_append]
      exact hsend.2 username husername
    obtain ⟨hnone, rfl⟩ | ⟨username, husername, -, rfl⟩ := parseAuth_ok h
    · obtain ⟨hnone', -⟩ | ⟨username', -, -, hsome⟩ := parseAuth_ok h'
      · simp [Scfg.param, hnone, hnone', hsend.1 hnone, hsend'.1 hnone']
      · cases hsome
    · obtain ⟨-, hnone⟩ | ⟨username', husername', -, hheaders⟩ := parseAuth_ok h'
      · cases hnone
      · have hsame := hdecoded hsend husername
        rw [Option.some.inj hheaders, hdecoded hsend' husername'] at hsame
        obtain ⟨rfl, hpassword⟩ := Prod.mk.inj (Option.some.inj hsame)
        exact ⟨husername'.trans husername.symm, hpassword⟩

end Parse

/-- Base64, on one text; others are marked. -/
def oneText : Outside Unit :=
  { Outside.permissive with
    base64 := fun text => if text = "alice:secret" then "YWxpY2U6c2VjcmV0" else "=" ++ text }

def decodeOneText (credentials : String) : Option String :=
  match credentials.toList with
  | '=' :: rest => some (String.ofList rest)
  | _ => some "alice:secret"

theorem decodeOneText_base64 (text : String) : decodeOneText (oneText.base64 text) = some text := by
  by_cases h : text = "alice:secret"
  · subst h
    rfl
  · simp [oneText, decodeOneText, h]

/-- The header of a username and a password says both. -/
theorem parseAuth_faithful_alice : Faithful decodeOneText [("username", ⟨["alice"], none⟩), ("password", ⟨["secret"], none⟩)]
    (some "Basic YWxpY2U6c2VjcmV0") := by
  have hok : (parseAuth oneText [("username", ⟨["alice"], none⟩), ("password", ⟨["secret"], none⟩)]).result =
      .ok (some "Basic YWxpY2U6c2VjcmV0") := rfl
  refine (parseAuth_faithful_iff decodeOneText_base64 hok).1.mpr ⟨fun h => ?_, fun username h => ?_⟩
  · cases h
  · cases h
    decide

/-- A password without a username is not sent. -/
theorem parseAuth_password_alone : (parseAuth oneText [("password", ⟨["secret"], none⟩)]).result = .ok none ∧
    ¬ Faithful decodeOneText [("password", ⟨["secret"], none⟩)] none := by
  refine ⟨rfl, fun h => ?_⟩
  cases h.2

end Pimsync

import LedgerFeed.Bus.Redis
import LedgerFeed.Json.Reader
import LedgerFeed.Proofs.Characters.Cut
import LedgerFeed.Proofs.Characters.Percent
import LedgerFeed.Proofs.Number.Digits
import LedgerFeed.Proofs.Settings.Accepted

/-!
# The endpoint of the bus

The publishing client is given host, port, database and password one by one, the subscribing client
an address that has to be taken apart again. `Endpoint.ofOptions` is the endpoint that a client with
such options uses. Both clients use the same one exactly if nothing in password and host has a
meaning in addresses and the database has a text (`clients_agree_iff`).
-/

namespace LedgerFeed

structure Endpoint where
  password : Option (List Char)
  host : List Char
  port : Option Int
  db : Option Int
  deriving DecidableEq

namespace Endpoint

def given? (text : List Char) : Option (List Char) := if text.isEmpty then none else some text

def wholeNumber? (text : List Char) : Option Int :=
  if text.isEmpty || text.any (!isDigit ·) then none else some (ofDigits text)

/-! ## Addresses -/

def scheme : List Char := "redis://".toList

def isDelimiter (c : Char) : Bool := c = '/' || c = '?' || c = '#'

def authority (rest : List Char) : List Char := rest.takeWhile (!isDelimiter ·)

def path (rest : List Char) : List Char :=
  (rest.dropWhile (!isDelimiter ·)).takeWhile fun c => c ≠ '?' && c ≠ '#'

def passwordOf (authority : List Char) : Option (List Char) :=
  (((beforeLast? '@' authority).bind (afterFirst? ':')).map unescape).bind given?

def hostPort (text : List Char) : List Char × Option (List Char) :=
  match afterFirst? '[' text with
  | some inner => (beforeFirst ']' inner, (afterFirst? ']' inner).bind (afterFirst? ':'))
  | none => (beforeFirst ':' text, afterFirst? ':' text)

def ofRest (rest : List Char) : Endpoint where
  password := passwordOf (authority rest)
  host := (hostPort (afterLast '@' (authority rest))).1
  port := (hostPort (afterLast '@' (authority rest))).2.bind wholeNumber?
  db := wholeNumber? ((path rest).filter (· ≠ '/'))

def ofAddress (address : List Char) : Option Endpoint := (Json.dropWord? scheme address).map ofRest

def ofOptions (options : List (String × Value)) : Option Endpoint :=
  match options.lookup "url" with
  | some url => (url.text?.bind Text.chars?).bind ofAddress
  | none => some {
      password := (((options.lookup "password").bind Value.text?).bind Text.chars?).bind given?
      host := (((options.lookup "host").bind Value.text?).bind Text.chars?).getD []
      port := (options.lookup "port").bind fun value => value.slot.int?
      db := (options.lookup "db").bind fun value => value.slot.int? }

end Endpoint

/-! ## Settings as an address -/

namespace Settings

def secret (settings : Settings) : Option (List Char) :=
  settings.redisPassword.bind fun text => Endpoint.given? text.toList

def host (settings : Settings) : List Char := settings.redisHost.toList

def credentials (settings : Settings) : List Char :=
  match settings.secret with
  | some password => ':' :: (password ++ ['@'])
  | none => []

def location (settings : Settings) : List Char := settings.host ++ ':' :: intDigits settings.redisPort

def address (settings : Settings) : List Char :=
  settings.credentials ++ settings.location ++ '/' :: intDigits settings.redisDb

theorem redisUrl_eq {settings : Settings} (port : exceedsDigitLimit settings.redisPort = false)
    (db : exceedsDigitLimit settings.redisDb = false) :
    ∃ url, settings.redisUrl = .ok url ∧ url.toList = Endpoint.scheme ++ settings.address := by
  unfold redisUrl
  simp only [port, db, Bool.or_false, Bool.false_eq_true, ↓reduceIte]
  refine ⟨_, rfl, ?_⟩
  have front : (toString "redis://").toList = Endpoint.scheme := rfl
  have nothing : (toString "").toList = [] := rfl
  have colon : (toString ":").toList = [':'] := rfl
  have slash : (toString "/").toList = ['/'] := rfl
  have sign : (toString "@").toList = ['@'] := rfl
  have word (s : String) : (toString s).toList = s.toList := rfl
  have number (n : Int) : (toString (intText n)).toList = intDigits n := by
    rw [word, intText, String.toList_ofList]
  unfold address credentials secret location host
  cases settings.redisPassword with
  | none =>
      simp only [String.toList_append, front, nothing, colon, slash, number, Option.bind_none]
      simp [word]
  | some password =>
      have same : password.toList.isEmpty = password.isEmpty := by
        rw [Bool.eq_iff_iff]
        simp
      simp only [Option.bind_some, Endpoint.given?, same]
      split
      · simp only [String.toList_append, front, nothing, colon, slash, number]
        simp [word]
      · have quoted : (toString (toString ":" ++ toString password ++ toString "@")).toList =
            ':' :: (password.toList ++ ['@']) := by
          rw [word, String.toList_append, String.toList_append, colon, sign, word]
          rfl
        simp only [String.toList_append, front, colon, slash, number, quoted]
        simp [word]

end Settings

namespace Endpoint

theorem dropWord_append (word rest : List Char) :
    Json.dropWord? word (word ++ rest) = some rest := by
  induction word with
  | nil => rfl
  | cons c word ih => simpa [Json.dropWord?] using ih

theorem publisher_eq (settings : Settings) :
    ofOptions (Redis.publisherOptions settings) = some {
      password := settings.secret
      host := settings.host
      port := some settings.redisPort
      db := some settings.redisDb } := by
  unfold ofOptions Redis.publisherOptions
  cases hp : settings.redisPassword <;>
    simp [List.lookup, hp, Settings.secret, Settings.host, Value.text?, Value.text, Value.ofInt,
      Value.ofText?, Value.ofSlot, Value.null, Slot.text?, Slot.int?, Text.ofString]

theorem subscriber_eq {settings : Settings} (port : exceedsDigitLimit settings.redisPort = false)
    (db : exceedsDigitLimit settings.redisDb = false) :
    ∃ options, Redis.subscriberOptions settings = .ok options ∧
      ofOptions options = some (ofRest settings.address) := by
  obtain ⟨url, hurl, text⟩ := Settings.redisUrl_eq port db
  refine ⟨_, by rw [Redis.subscriberOptions, hurl]; rfl, ?_⟩
  have named : (Value.text url).text?.bind Text.chars? = some url.toList :=
    Text.chars?_ofChars url.toList
  simp only [ofOptions, List.lookup_cons_self, named, Option.bind_some, ofAddress, text,
    dropWord_append, Option.map_some]

/-! ## Taking an address apart -/

theorem hostPort_subset (text : List Char) : (hostPort text).1 ⊆ text := by
  unfold hostPort
  split
  · rename_i inner hinner
    intro c hc
    rw [afterFirst_eq_some hinner]
    exact List.mem_append_right _ (List.mem_cons_of_mem _ (beforeFirst_subset ']' inner hc))
  · exact beforeFirst_subset ':' text

theorem mem_authority {rest : List Char} {c : Char} (h : c ∈ authority rest) :
    isDelimiter c = false := by
  simpa using List.mem_takeWhile_imp h

theorem host_subset (rest : List Char) : (ofRest rest).host ⊆ afterLast '@' (authority rest) :=
  hostPort_subset _

theorem isAscii_delimiter {c : Char} (h : isDelimiter c = true) : isAscii c = true := by
  simp only [isDelimiter, Bool.or_eq_true, decide_eq_true_eq] at h
  rcases h with (rfl | rfl) | rfl <;> decide

theorem authority_cut {text : List Char} (h : ∃ c ∈ text, isDelimiter c = true) :
    ∃ before c after, text = before ++ c :: after ∧ isDelimiter c = true ∧
      ∀ rest, authority (text ++ rest) = before := by
  induction text with
  | nil =>
      obtain ⟨c, hc, -⟩ := h
      cases hc
  | cons first text ih =>
      by_cases cut : isDelimiter first = true
      · exact ⟨[], first, text, rfl, cut, fun rest => by simp [authority, cut]⟩
      · obtain ⟨c, hc, delimiter⟩ := h
        have later : c ∈ text := by
          rcases List.mem_cons.mp hc with rfl | hc
          · exact absurd delimiter cut
          · exact hc
        obtain ⟨before, d, after, rfl, hd, same⟩ := ih ⟨c, later, delimiter⟩
        refine ⟨first :: before, d, after, rfl, hd, fun rest => ?_⟩
        have goes : authority (first :: (before ++ d :: after ++ rest)) =
            first :: authority (before ++ d :: after ++ rest) := by simp [authority, cut]
        rw [List.cons_append, goes, same]

theorem given_eq_some {text password : List Char} (h : given? text = some password) :
    text = password ∧ password ≠ [] := by
  unfold given? at h
  split at h
  · cases h
  · rename_i some
    cases h
    exact ⟨rfl, by simpa using some⟩

theorem passwordOf_short {text password : List Char}
    (h : passwordOf (':' :: text) = some password) :
    password.countP isAscii ≤ text.countP isAscii := by
  obtain ⟨decoded, hdecoded, hgiven⟩ := Option.bind_eq_some_iff.mp h
  obtain ⟨escaped, hescaped, rfl⟩ := Option.map_eq_some_iff.mp hdecoded
  obtain ⟨user, huser, hcolon⟩ := Option.bind_eq_some_iff.mp hescaped
  obtain ⟨host, whole⟩ := beforeLast_eq_some huser
  have part := congrArg (List.countP isAscii) (afterFirst_eq_some hcolon)
  have all := congrArg (List.countP isAscii) whole
  have shorter := countP_unescape escaped
  have colon : isAscii ':' = true := by decide
  rw [(given_eq_some hgiven).1] at shorter
  rw [List.countP_append, List.countP_cons_of_pos colon] at part
  rw [List.countP_append, List.countP_cons_of_pos colon,
    List.countP_cons_of_pos (show isAscii '@' = true by decide)] at all
  omega

theorem given_self {password : List Char} (h : password ≠ []) : given? password = some password := by
  simp [given?, h]

/-! ## Numbers in addresses -/

theorem intDigits_of_nonneg {n : Int} (h : 0 ≤ n) : intDigits n = natDigits n.natAbs :=
  if_neg (by omega)

theorem isDigit_intDigits {n : Int} (h : 0 ≤ n) : ∀ c ∈ intDigits n, isDigit c = true := by
  rw [intDigits_of_nonneg h]
  exact fun c => isDigit_of_mem_natDigits

theorem wholeNumber_intDigits {n : Int} (h : 0 ≤ n) : wholeNumber? (intDigits n) = some n := by
  have digits := isDigit_intDigits h
  have some : (intDigits n).isEmpty = false := by
    rw [intDigits_of_nonneg h]
    simpa using natDigits_ne_nil n.natAbs
  have all : (intDigits n).any (!isDigit ·) = false := by simpa using digits
  rw [wholeNumber?, some, all, intDigits_of_nonneg h, ofDigits_natDigits]
  simp only [Bool.or_false, Bool.false_eq_true, ↓reduceIte, Option.some.injEq]
  omega

def marks : List Char := ['/', '?', '#', '@', ':', '[']

theorem not_mark_of_isDigit {c : Char} (h : isDigit c = true) : c ∉ marks := by
  unfold marks
  simp only [List.mem_cons, List.not_mem_nil, or_false, not_or]
  refine ⟨?_, ?_, ?_, ?_, ?_, ?_⟩ <;> (rintro rfl; cases h)

section

variable {settings : Settings} (port : 0 ≤ settings.redisPort) (db : 0 ≤ settings.redisDb)

include port in
theorem not_mem_port {mark : Char} (h : mark ∈ marks) : mark ∉ intDigits settings.redisPort :=
  fun hc => not_mark_of_isDigit (isDigit_intDigits port mark hc) h

theorem not_delimiter_of_isDigit {c : Char} (h : isDigit c = true) : isDelimiter c = false := by
  have := not_mark_of_isDigit h
  simp [marks] at this
  simp [isDelimiter, this]

/-- Password and host have no character that ends the authority of an address. -/
structure Undelimited (settings : Settings) : Prop where
  password : ∀ password, settings.secret = some password → ∀ c ∈ password, isDelimiter c = false
  host : ∀ c ∈ settings.host, isDelimiter c = false

include port in
theorem location_undelimited (h : Undelimited settings) :
    ∀ c ∈ settings.credentials ++ settings.location, (!isDelimiter c) = true := by
  have credentials : ∀ c ∈ settings.credentials, isDelimiter c = false := by
    intro c hc
    unfold Settings.credentials at hc
    split at hc
    · rename_i password hp
      simp only [List.mem_cons, List.mem_append, List.not_mem_nil, or_false] at hc
      rcases hc with rfl | hc | rfl
      · rfl
      · exact h.password password hp c hc
      · rfl
    · cases hc
  intro c hc
  rw [Bool.not_eq_true']
  simp only [Settings.location, List.mem_append, List.mem_cons] at hc
  rcases hc with hc | hc | rfl | hc
  · exact credentials c hc
  · exact h.host c hc
  · rfl
  · exact not_delimiter_of_isDigit (isDigit_intDigits port c hc)

include port in
theorem authority_address (h : Undelimited settings) :
    authority settings.address = settings.credentials ++ settings.location := by
  rw [authority, Settings.address, List.takeWhile_append_of_pos (location_undelimited port h)]
  simp [isDelimiter]

include port db in
theorem db_address (h : Undelimited settings) :
    (ofRest settings.address).db = some settings.redisDb := by
  have digits := isDigit_intDigits db
  have others {mark : Char} (special : mark ∈ marks) :
      ∀ c ∈ intDigits settings.redisDb, c ≠ mark := by
    rintro c hc rfl
    exact not_mark_of_isDigit (digits c hc) special
  have start : path settings.address = '/' :: intDigits settings.redisDb := by
    have stays : ∀ c ∈ '/' :: intDigits settings.redisDb, (c ≠ '?' && c ≠ '#') = true := by
      intro c hc
      rcases List.mem_cons.mp hc with rfl | hc
      · rfl
      · simp [others (show '?' ∈ marks by decide) c hc, others (show '#' ∈ marks by decide) c hc]
    rw [path, Settings.address, List.dropWhile_append_of_pos (location_undelimited port h),
      List.dropWhile_cons_of_neg (by decide), List.takeWhile_eq_self_iff.mpr stays]
  have kept : ('/' :: intDigits settings.redisDb).filter (· ≠ '/') = intDigits settings.redisDb := by
    rw [List.filter_cons_of_neg (by decide), List.filter_eq_self]
    intro c hc
    simpa using others (show '/' ∈ marks by decide) c hc
  rw [ofRest, start, kept, wholeNumber_intDigits db]

include port in
theorem sign_location (sign : '@' ∉ settings.host) : '@' ∉ settings.location := by
  simp [Settings.location, sign, not_mem_port port (show '@' ∈ marks by decide)]

include port in
theorem afterLast_address (sign : '@' ∉ settings.host) :
    afterLast '@' (settings.credentials ++ settings.location) = settings.location := by
  have tail := sign_location port sign
  unfold Settings.credentials
  split
  · rename_i password _
    have shape : ':' :: (password ++ ['@']) ++ settings.location =
        (':' :: password) ++ '@' :: settings.location := by simp
    rw [shape, afterLast_append tail]
  · rw [List.nil_append, afterLast_none tail]

include port in
theorem password_address (sign : '@' ∉ settings.host) :
    passwordOf (settings.credentials ++ settings.location) =
      settings.secret.bind fun password => given? (unescape password) := by
  have tail := sign_location port sign
  unfold Settings.credentials
  split
  · rename_i password hp
    have shape : ':' :: (password ++ ['@']) ++ settings.location =
        (':' :: password) ++ '@' :: settings.location := by simp
    have first : afterFirst? ':' ([] ++ ':' :: password) = some password :=
      afterFirst_append (by simp) password
    rw [List.nil_append] at first
    rw [shape, passwordOf, beforeLast_append tail, hp]
    simp [first]
  · rename_i none
    rw [List.nil_append, passwordOf, beforeLast_none tail, none]
    rfl

include port in
theorem host_bracket (bracket : '[' ∈ settings.host) :
    (hostPort settings.location).1 ≠ settings.host := by
  obtain ⟨before, inner, split, first⟩ := List.eq_append_cons_of_mem bracket
  have read : (hostPort settings.location).1 =
      beforeFirst ']' (inner ++ ':' :: intDigits settings.redisPort) := by
    rw [Settings.location, split, List.append_assoc, List.cons_append, hostPort,
      afterFirst_append first]
  have none : (intDigits settings.redisPort).count '[' = 0 :=
    List.count_eq_zero.mpr (not_mem_port port (by decide))
  have fewer : (beforeFirst ']' (inner ++ ':' :: intDigits settings.redisPort)).count '[' ≤
      (inner ++ ':' :: intDigits settings.redisPort).count '[' :=
    (List.takeWhile_prefix _).sublist.count_le '['
  rw [List.count_append, List.count_cons_of_ne (by decide), none] at fewer
  have whole := congrArg (List.count '[') split
  rw [List.count_append, List.count_cons_self] at whole
  intro same
  rw [read] at same
  rw [same] at fewer
  omega

include port in
theorem afterFirst_bracket (bracket : '[' ∉ settings.host) :
    afterFirst? '[' settings.location = none :=
  afterFirst_none (by
    simp [Settings.location, bracket, not_mem_port port (show '[' ∈ marks by decide)])

include port in
theorem host_colon (bracket : '[' ∉ settings.host) (colon : ':' ∈ settings.host) :
    (hostPort settings.location).1 ≠ settings.host := by
  intro same
  rw [hostPort, afterFirst_bracket port bracket] at same
  rw [← same] at colon
  exact not_mem_beforeFirst ':' _ colon

include port in
theorem hostPort_address (bracket : '[' ∉ settings.host) (colon : ':' ∉ settings.host) :
    hostPort settings.location = (settings.host, some (intDigits settings.redisPort)) := by
  rw [hostPort, afterFirst_bracket port bracket]
  dsimp only
  rw [Settings.location, beforeFirst_append colon, afterFirst_append colon]

end

/-! ## When both clients use the same endpoint -/

/-- Nothing in password and host has a meaning in addresses, and the database has a text. -/
structure Addressable (settings : Settings) : Prop where
  undelimited : Undelimited settings
  sign : '@' ∉ settings.host
  bracket : '[' ∉ settings.host
  colon : ':' ∉ settings.host
  escape : ∀ password, settings.secret = some password → ¬ HasEscape password
  db : exceedsDigitLimit settings.redisDb = false

theorem secret_ne_nil {settings : Settings} {password : List Char}
    (h : settings.secret = some password) : password ≠ [] := by
  obtain ⟨text, -, given⟩ := Option.bind_eq_some_iff.mp h
  exact (given_eq_some given).2

theorem undelimited_of_agree {settings : Settings}
    (password : (ofRest settings.address).password = settings.secret)
    (host : (ofRest settings.address).host = settings.host) : Undelimited settings := by
  constructor
  · intro secret hsecret c hc
    by_contra delimiter
    rw [Bool.not_eq_false] at delimiter
    obtain ⟨before, d, after, rfl, hd, same⟩ := authority_cut ⟨c, hc, delimiter⟩
    have front : authority settings.address = ':' :: before := by
      rw [← same ('@' :: (settings.location ++ '/' :: intDigits settings.redisDb))]
      simp [Settings.address, Settings.credentials, hsecret, authority, isDelimiter]
    have read : passwordOf (authority settings.address) = some (before ++ d :: after) :=
      password.trans hsecret
    rw [front] at read
    have short := passwordOf_short read
    rw [List.countP_append, List.countP_cons_of_pos (isAscii_delimiter hd)] at short
    omega
  · intro c hc
    rw [← host] at hc
    exact mem_authority (afterLast_subset '@' _ (host_subset _ hc))

theorem sign_of_agree {settings : Settings}
    (host : (ofRest settings.address).host = settings.host) : '@' ∉ settings.host := by
  intro h
  rw [← host] at h
  exact not_mem_afterLast '@' _ (host_subset _ h)

section

variable {settings : Settings} (port : 0 ≤ settings.redisPort) (db : 0 ≤ settings.redisDb)
  (short : exceedsDigitLimit settings.redisDb = false)

include port short in
theorem addressable_of_agree (password : (ofRest settings.address).password = settings.secret)
    (host : (ofRest settings.address).host = settings.host) : Addressable settings := by
  have undelimited := undelimited_of_agree password host
  have sign := sign_of_agree host
  have front := authority_address port undelimited
  have read : (hostPort settings.location).1 = settings.host := by
    rw [← afterLast_address port sign, ← front]
    exact host
  have bracket : '[' ∉ settings.host := fun h => host_bracket port h read
  refine ⟨undelimited, sign, bracket, fun h => host_colon port bracket h read, ?_, short⟩
  intro secret hsecret
  have decoded : given? (unescape secret) = some secret := by
    have := password_address port sign
    rw [← front, hsecret, Option.bind_some] at this
    rw [← this]
    exact password.trans hsecret
  exact unescape_eq_iff.mp (given_eq_some decoded).1

include port db in
theorem agree_of_addressable (h : Addressable settings) :
    ofRest settings.address = {
      password := settings.secret
      host := settings.host
      port := some settings.redisPort
      db := some settings.redisDb } := by
  have front := authority_address port h.undelimited
  have location := afterLast_address port h.sign
  have password : passwordOf (authority settings.address) = settings.secret := by
    rw [front, password_address port h.sign]
    cases hsecret : settings.secret with
    | none => rfl
    | some secret =>
        rw [Option.bind_some, unescape_eq_iff.mpr (h.escape secret hsecret),
          given_self (secret_ne_nil hsecret)]
  have number : wholeNumber? ((path settings.address).filter (· ≠ '/')) = some settings.redisDb :=
    db_address port db h.undelimited
  rw [ofRest, password, number, front, location, hostPort_address port h.bracket h.colon,
    Option.bind_some, wholeNumber_intDigits port]

end

theorem exceedsDigitLimit_port {n : Int} (least : 1 ≤ n) (most : n ≤ 65535) :
    exceedsDigitLimit n = false := by
  have small : (natDigits n.natAbs).length ≤ 5 :=
    (Nat.length_toDigits_le_iff (by decide) (by decide)).mpr (by omega)
  exact exceedsDigitLimit_false.mpr (Nat.le_trans small (by decide))

theorem short_of_subscriberOptions {settings : Settings} {options : List (String × Value)}
    (h : Redis.subscriberOptions settings = .ok options) :
    exceedsDigitLimit settings.redisDb = false := by
  unfold Redis.subscriberOptions Settings.redisUrl at h
  generalize exceedsDigitLimit settings.redisPort = port at h
  generalize exceedsDigitLimit settings.redisDb = db at h ⊢
  cases db with
  | false => rfl
  | true =>
      simp only [Bool.or_true, ↓reduceIte] at h
      cases h

theorem clients_agree_iff {sources : Sources} {settings : Settings}
    (h : Settings.read sources = .ok settings) :
    (∃ options, Redis.subscriberOptions settings = .ok options ∧
      ofOptions options = ofOptions (Redis.publisherOptions settings)) ↔ Addressable settings := by
  have accepted := accepted_of_read h
  obtain ⟨least, most⟩ := accepted.port_bounds
  have port : 0 ≤ settings.redisPort := by omega
  have portShort := exceedsDigitLimit_port least most
  rw [publisher_eq]
  constructor
  · rintro ⟨options, hoptions, agree⟩
    have short := short_of_subscriberOptions hoptions
    obtain ⟨written, hwritten, read⟩ := subscriber_eq portShort short
    cases hoptions.symm.trans hwritten
    have same := Option.some.inj (read.symm.trans agree)
    exact addressable_of_agree port short (congrArg password same) (congrArg host same)
  · intro addressable
    obtain ⟨options, hoptions, read⟩ := subscriber_eq portShort addressable.db
    refine ⟨options, hoptions, ?_⟩
    rw [read, agree_of_addressable port accepted.db_nonneg addressable]

def onlyPassword (password : String) : Sources := ⟨[("redis_password", .text password)], []⟩

theorem read_onlyPassword (password : String) : ∃ settings,
    Settings.read (onlyPassword password) = .ok settings ∧
      settings.redisPassword = some password ∧ settings.redisHost = "localhost" ∧
      settings.redisPort = 6379 ∧ settings.redisDb = 0 := by
  have taken : readField (onlyPassword password) "redis_password" readPassword none =
      fun issues => (some password, issues) := by
    funext issues
    have found : (onlyPassword password).find? "redis_password" = some (.text password) := rfl
    have read : readPassword (.text password) = .ok (some password) := by
      simp [readPassword, readText, Value.text?, Value.text, Value.ofSlot, Slot.text?, Except.map]
    simp only [readField, found, read]
  unfold Settings.read readFields
  rw [taken]
  exact ⟨_, rfl, rfl, rfl, rfl, rfl⟩

theorem clients_agree_iff_secret : ∃ settings,
    Settings.read (onlyPassword "p@ss:w%rd") = .ok settings ∧ Addressable settings ∧
      ∃ options, Redis.subscriberOptions settings = .ok options ∧
        ofOptions options = ofOptions (Redis.publisherOptions settings) := by
  obtain ⟨settings, accepted, password, host, port, db⟩ := read_onlyPassword "p@ss:w%rd"
  have text : settings.host = "localhost".toList := by rw [Settings.host, host]
  have secret : settings.secret = some "p@ss:w%rd".toList := by
    rw [Settings.secret, password]
    rfl
  have only {other : List Char} (h : settings.secret = some other) : other = "p@ss:w%rd".toList :=
    (Option.some.inj (secret.symm.trans h)).symm
  have undelimited {text : List Char} (h : text.any isDelimiter = false) :
      ∀ c ∈ text, isDelimiter c = false := by
    simpa using h
  have unescaped : ¬ HasEscape "p@ss:w%rd".toList := unescape_eq_iff.mp (by decide +kernel)
  have addressable : Addressable settings := {
    undelimited := {
      password := fun other h => by
        rw [only h]
        exact undelimited (by decide)
      host := by
        rw [text]
        exact undelimited (by decide) }
    sign := by
      rw [text]
      decide
    bracket := by
      rw [text]
      decide
    colon := by
      rw [text]
      decide
    escape := fun other h => by
      rw [only h]
      exact unescaped
    db := by
      rw [db]
      exact exceedsDigitLimit_false.mpr (by decide) }
  exact ⟨settings, accepted, addressable, (clients_agree_iff accepted).mpr addressable⟩

theorem password_cut : ∃ settings options,
    Settings.read (onlyPassword "a/b") = .ok settings ∧
      Redis.subscriberOptions settings = .ok options ∧
      ofOptions options = some ⟨none, [], none, none⟩ ∧
      ofOptions (Redis.publisherOptions settings) =
        some ⟨some "a/b".toList, "localhost".toList, some 6379, some 0⟩ := by
  obtain ⟨settings, accepted, password, host, port, db⟩ := read_onlyPassword "a/b"
  have secret : settings.secret = some "a/b".toList := by
    rw [Settings.secret, password]
    rfl
  have address : settings.address = ":a/b@localhost:6379/0".toList := by
    rw [Settings.address, Settings.credentials, secret, Settings.location, Settings.host, host, port,
      db]
    decide
  have portShort : exceedsDigitLimit settings.redisPort = false := by
    rw [port]
    exact exceedsDigitLimit_false.mpr (by decide)
  have dbShort : exceedsDigitLimit settings.redisDb = false := by
    rw [db]
    exact exceedsDigitLimit_false.mpr (by decide)
  obtain ⟨options, hoptions, read⟩ := subscriber_eq portShort dbShort
  refine ⟨settings, options, accepted, hoptions, ?_, ?_⟩
  · rw [read, address]
    decide
  · rw [publisher_eq, secret, Settings.host, host, port, db]

end Endpoint

end LedgerFeed

import ReactorOS.Auth
import ReactorOS.TamperEvidence
namespace ReactorOS
open Wire

theorem join_two (one two : String) : join ':' [one,two] = one ++ ":" ++ two := by
  have whole := join_snoc ':' (List.cons_ne_nil one []) two
  simpa [join] using whole

theorem join_three (one two three : String) : join ':' [one,two,three] = one ++ ":" ++ two ++ ":" ++ three := by
  have whole := join_snoc ':' (List.cons_ne_nil one [two]) three
  rw [join_two] at whole
  exact whole

theorem join_four (one two three four : String) :
    join ':' [one,two,three,four] = one ++ ":" ++ two ++ ":" ++ three ++ ":" ++ four := by
  have whole := join_snoc ':' (List.cons_ne_nil one [two,three]) four
  rw [join_three] at whole
  exact whole

def NoColon (text : String) : Prop := ':' ∉ text.toList

instance (text : String) : Decidable (NoColon text) := inferInstanceAs (Decidable (_ ∉ _))

theorem split_four {token one two three four : String} : split ':' token = [one,two,three,four] ↔
    token = one ++ ":" ++ two ++ ":" ++ three ++ ":" ++ four ∧ NoColon one ∧ NoColon two ∧ NoColon three ∧ NoColon four := by
  rw [← join_four]
  constructor
  · intro parts
    have absent := split_absent ':' token
    have back := join_split ':' token
    rw [parts] at absent back
    refine ⟨back.symm,?_⟩
    simpa [NoColon] using absent
  · intro ⟨same,first,second,third,fourth⟩
    rw [same,split_join _ (by simp)]
    simpa [NoColon] using And.intro first (And.intro second (And.intro third fourth))

-- What is before the first colon is the same where the texts are.
theorem before_colon {one two rest tail : String} (first : NoColon one) (second : NoColon two)
    (same : one ++ ":" ++ rest = two ++ ":" ++ tail) : one = two ∧ rest = tail := by
  have cut := splitOnce_append first rest
  have other := splitOnce_append second tail
  have texts : one ++ String.singleton ':' ++ rest = two ++ String.singleton ':' ++ tail := same
  rw [texts,other] at cut
  cases cut
  exact ⟨rfl,rfl⟩

theorem roleFromName_some {text : String} {role : AuthRole} : roleFromName text = some role ↔ text = roleName role := by
  constructor
  · intro found
    have named := List.find?_some found
    exact (of_decide_eq_true named).symm
  · rintro rfl
    cases role <;> rfl

theorem roleName_inj {one two : AuthRole} (same : roleName one = roleName two) : one = two :=
  Option.some.inj ((roleFromName_some.mpr rfl).symm.trans (roleFromName_some.mpr same))

theorem roleName_noColon (role : AuthRole) : NoColon (roleName role) := by
  cases role <;> decide

theorem roleName_nonempty (role : AuthRole) : (roleName role).isEmpty = false := by
  cases role <;> decide

theorem stripSign_chars {text digits : List Char} {negative : Bool} (stripped : stripSign text = (negative,digits)) :
    ∀ ch ∈ text, ch = '-' ∨ ch = '+' ∨ ch ∈ digits := by
  intro ch member
  unfold stripSign at stripped
  split at stripped <;> cases stripped
  · rcases List.mem_cons.mp member with rfl | inside
    · exact .inl rfl
    · exact .inr (.inr inside)
  · rcases List.mem_cons.mp member with rfl | inside
    · exact .inr (.inl rfl)
    · exact .inr (.inr inside)
  · exact .inr (.inr member)

theorem parseI64_text {text : String} {number : Int} (parsed : parseI64 text = some number) :
    NoColon text ∧ text.isEmpty = false := by
  unfold parseI64 at parsed
  obtain ⟨read,_⟩ := Option.filter_eq_some_iff.mp parsed
  rcases stripped : stripSign text.toList with ⟨negative,digits⟩
  simp only [parseExponent,stripped] at read
  split at read
  · cases read
  · rename_i checks
    simp only [Bool.or_eq_true,not_or,Bool.not_eq_true,Bool.not_eq_false',List.all_eq_true] at checks
    obtain ⟨filled,digit⟩ := checks
    constructor
    · intro colon
      rcases stripSign_chars stripped ':' colon with minus | plus | inside
      · cases minus
      · cases plus
      · exact absurd (digit ':' inside) (by decide)
    · by_contra empty
      have blank : text = "" := by simpa using empty
      subst blank
      cases stripped
      cases filled

theorem int_noColon (number : Int) : NoColon (toString number) := by
  intro colon
  exact absurd (int_text_numeric number ':' colon) (by decide)

namespace AuthEnv
variable {env : AuthEnv}

theorem authenticatedUser_ok {now : Instant} {token : String} {user : AuthUser} :
    env.authenticatedUser now (some ("Bearer " ++ token)) = .ok user ↔ ∃ username expiresText signature role expiresAt,
      split ':' token = [username,roleName role,expiresText,signature] ∧ username.isEmpty = false ∧
      signature.isEmpty = false ∧ parseI64 expiresText = some expiresAt ∧ timestamp now ≤ expiresAt ∧
      env.authSignature (username ++ ":" ++ roleName role ++ ":" ++ expiresText) = signature ∧
      user = authUser username role := by
  unfold authenticatedUser
  simp only [stripPrefix_append]
  constructor
  · intro accepted
    split at accepted
    · rename_i username roleText expiresText signature parts
      split at accepted
      · cases accepted
      · rename_i filled
        simp only [Bool.or_eq_true,not_or,Bool.not_eq_true] at filled
        split at accepted
        · cases accepted
        · rename_i expiresAt expires
          split at accepted
          · cases accepted
          · split at accepted
            · cases accepted
            · rename_i fresh signed
              split at accepted
              · cases accepted
              · rename_i role named
                cases accepted
                obtain rfl := roleFromName_some.mp named
                exact ⟨username,expiresText,signature,role,expiresAt,parts,filled.1.1.1,filled.2,expires,by omega,
                  by simpa using signed,rfl⟩
    · cases accepted
  · intro ⟨username,expiresText,signature,role,expiresAt,parts,named,hashed,expires,fresh,signed,same⟩
    have written := (parseI64_text expires).2
    have current : ¬expiresAt < timestamp now := by omega
    simp only [parts,named,roleName_nonempty,written,hashed,Bool.or_false,Bool.false_eq_true,if_false,expires,if_neg current,
      signed,ne_eq,not_true_eq_false,roleFromName_some.mpr rfl,same]

theorem issueAuthToken_parts (hexadecimal : ∀ text, NoColon (env.sha256 text)) {username : String} (named : NoColon username)
    (role : AuthRole) (expiresAt : Int) : split ':' (env.issueAuthToken username role expiresAt) =
      [username,roleName role,toString expiresAt,
        env.authSignature (username ++ ":" ++ roleName role ++ ":" ++ toString expiresAt)] :=
  split_four.mpr ⟨rfl,named,roleName_noColon role,int_noColon expiresAt,hexadecimal _⟩

theorem roleForLogin_some {username password : String} {overrides : Fields} {role : AuthRole}
    (found : env.roleForLogin username password overrides = some role) : username = roleName role := by
  unfold roleForLogin at found
  obtain ⟨⟨candidate,expected,named⟩,hit,same⟩ := Option.map_eq_some_iff.mp found
  cases same
  have listed := List.mem_of_find?_eq_some hit
  have passes := List.find?_some hit
  simp only [Bool.and_eq_true,beq_iff_eq] at passes
  obtain ⟨rfl,_⟩ := passes
  simp only [List.mem_cons,List.not_mem_nil,or_false,Prod.mk.injEq] at listed
  rcases listed with ⟨rfl,_,rfl⟩ | ⟨rfl,_,rfl⟩ | ⟨rfl,_,rfl⟩ <;> rfl

end AuthEnv

-- Sessions are issued for the three users, and hashes are stored of their passwords.
structure AuthLedger.Kept (env : AuthEnv) (ledger : AuthLedger) : Prop where
  logins : ∀ response ∈ ledger.logins, ∃ role, response.user = authUser (roleName role) role ∧
    response.token = env.issueAuthToken (roleName role) role (timestamp response.expiresAt)
  changes : ∀ change ∈ ledger.changes, (∃ role, change.username = roleName role) ∧
    change.hash = env.passwordOverrideHash change.username change.newPassword

namespace AuthEnv
variable {env : AuthEnv}

theorem loginResponse_ok {now : Instant} {payload : LoginRequest} {overrides : Fields} {response : LoginResponse}
    (answered : env.loginResponse now payload overrides = .ok response) : ∃ role,
      response.user = authUser (roleName role) role ∧
      response.token = env.issueAuthToken (roleName role) role (timestamp response.expiresAt) := by
  unfold loginResponse at answered
  simp only at answered
  split at answered
  · cases answered
  · rename_i role found
    have username := roleForLogin_some found
    obtain rfl := Except.ok.inj answered
    exact ⟨role,by rw [username],by rw [username]⟩

theorem authChangePassword_ok {now : Instant} {authorization : Option String} {payload : ChangePasswordRequest}
    {overrides : Fields} {user : AuthUser} {hash : String}
    (changed : env.authChangePassword now authorization payload overrides = .ok (user,hash)) :
    (∃ role, user.username = roleName role) ∧ hash = env.passwordOverrideHash user.username (trim payload.newPassword) := by
  unfold authChangePassword at changed
  obtain ⟨found,_,changed⟩ := bind_ok changed
  obtain ⟨stored,prepared,changed⟩ := bind_ok changed
  cases changed
  unfold preparePasswordChange at prepared
  split at prepared
  · cases prepared
  · rename_i known
    simp only at prepared
    split at prepared
    · cases prepared
    · split at prepared
      · cases prepared
      · cases prepared
        cases login : env.roleForLogin user.username payload.oldPassword overrides with
        | none => simp [login] at known
        | some role => exact ⟨⟨role,roleForLogin_some login⟩,rfl⟩

theorem loggedIn_kept {ledger : AuthLedger} (kept : ledger.Kept env) {answered : Except AppError LoginResponse}
    (issued : ∀ response, answered = .ok response → ∃ role, response.user = authUser (roleName role) role ∧
      response.token = env.issueAuthToken (roleName role) role (timestamp response.expiresAt)) :
    (ledger.loggedIn answered).Kept env := by
  cases answered with
  | error err => exact kept
  | ok response => exact ⟨List.forall_mem_cons.mpr ⟨issued response rfl,kept.logins⟩,kept.changes⟩

theorem changed_kept {ledger : AuthLedger} (kept : ledger.Kept env) {payload : ChangePasswordRequest} (written : Bool)
    {answered : Except AppError (AuthUser × String)}
    (stored : ∀ user hash, answered = .ok (user,hash) → (∃ role, user.username = roleName role) ∧
      hash = env.passwordOverrideHash user.username (trim payload.newPassword)) :
    (ledger.changed payload written answered).Kept env := by
  cases answered with
  | error err => exact kept
  | ok change =>
      cases written with
      | false => exact kept
      | true => exact ⟨kept.logins,List.forall_mem_cons.mpr ⟨stored change.1 change.2 rfl,kept.changes⟩⟩

theorem serve_kept {ledger : AuthLedger} (kept : ledger.Kept env) (now : Instant) (request : AuthRequest) :
    (env.serve ledger now request).Kept env := by
  cases request with
  | login payload => exact loggedIn_kept kept fun _ => loginResponse_ok
  | changePassword authorization payload written => exact changed_kept kept written fun _ _ => authChangePassword_ok

theorem run_kept (env : AuthEnv) (requests : List (Instant × AuthRequest)) : (env.run requests).Kept env := by
  have start : AuthLedger.empty.Kept env := ⟨nofun,nofun⟩
  unfold run
  generalize AuthLedger.empty = ledger at start
  induction requests generalizing ledger with
  | nil => exact start
  | cons request requests ih => exact ih _ (serve_kept start request.1 request.2)

end AuthEnv

-- Token signatures that were returned and hashes that were stored.
def AuthLedger.Digest (ledger : AuthLedger) (digest : String) : Prop :=
  (∃ response ∈ ledger.logins, (split ':' response.token)[3]? = some digest) ∨ ∃ change ∈ ledger.changes, change.hash = digest

-- With such a digest for its signature a token is accepted only where it was issued and has not expired.
def AuthLedger.Sealed (env : AuthEnv) (ledger : AuthLedger) : Prop :=
  ∀ now token signature user, (split ':' token)[3]? = some signature → ledger.Digest signature →
    env.authenticatedUser now (some ("Bearer " ++ token)) = .ok user →
      ∃ response ∈ ledger.logins, response.token = token ∧ response.user = user ∧
        timestamp now ≤ timestamp response.expiresAt

-- No password that was set is the role and expiry of a session, but for sessions that were issued.
def AuthLedger.Apart (ledger : AuthLedger) : Prop :=
  ∀ change ∈ ledger.changes, ∀ role expiresText, change.newPassword = roleName role ++ ":" ++ expiresText →
    (parseI64 expiresText).isSome → ∃ response ∈ ledger.logins, response.user = authUser change.username role ∧
      toString (timestamp response.expiresAt) = expiresText

theorem stripSign_digits {text : List Char} (digit : ∀ ch ∈ text, ch.isDigit = true) : stripSign text = (false,text) := by
  unfold stripSign
  split
  · exact absurd (digit '-' (by simp)) (by decide)
  · exact absurd (digit '+' (by simp)) (by decide)
  · rfl

theorem parseExponent_int {number read : Int} (parsed : parseExponent (toString number).toList = some read) :
    read = number := by
  rw [Int.toString_eq_repr,Int.repr_eq_if] at parsed
  unfold parseExponent at parsed
  by_cases natural : 0 ≤ number
  · rw [if_pos natural,stripSign_digits (repr_digits _)] at parsed
    simp only at parsed
    split at parsed
    · cases parsed
    · simp only [Bool.false_eq_true,if_false,repr_back] at parsed
      cases parsed
      omega
  · rw [if_neg natural,String.toList_append] at parsed
    simp only [show "-".toList = ['-'] from rfl,List.singleton_append,stripSign] at parsed
    split at parsed
    · cases parsed
    · simp only [if_true,repr_back] at parsed
      cases parsed
      omega

theorem parseI64_int {number read : Int} (parsed : parseI64 (toString number) = some read) : read = number :=
  parseExponent_int (Option.filter_eq_some_iff.mp parsed).1

section Forging
variable {env : AuthEnv} {ledger : AuthLedger}

theorem overrideHash_signature (env : AuthEnv) (username rest : String) :
    env.passwordOverrideHash username rest = env.authSignature (username ++ ":" ++ rest) := by
  simp only [AuthEnv.passwordOverrideHash,AuthEnv.authSignature,String.append_assoc]

-- A password that reads as the role and expiry of a session makes its stored hash the signature of that session.
theorem forged_admitted (hexadecimal : ∀ text, NoColon (env.sha256 text) ∧ (env.sha256 text).isEmpty = false)
    {change : PasswordChange} {name role : AuthRole} {expiresText : String} {expiresAt : Int}
    (named : change.username = roleName name)
    (hashed : change.hash = env.passwordOverrideHash change.username change.newPassword)
    (looks : change.newPassword = roleName role ++ ":" ++ expiresText) (parsed : parseI64 expiresText = some expiresAt) :
    split ':' (change.username ++ ":" ++ roleName role ++ ":" ++ expiresText ++ ":" ++ change.hash) =
        [change.username,roleName role,expiresText,change.hash] ∧
      env.authenticatedUser (expiresAt*1000000000) (some ("Bearer " ++
        (change.username ++ ":" ++ roleName role ++ ":" ++ expiresText ++ ":" ++ change.hash))) =
          .ok (authUser change.username role) := by
  have signed : env.authSignature (change.username ++ ":" ++ roleName role ++ ":" ++ expiresText) = change.hash := by
    rw [hashed,looks,overrideHash_signature]
    simp only [String.append_assoc]
  obtain ⟨colonless,filled⟩ := hexadecimal (env.secret ++ ":" ++ change.username ++ ":" ++ change.newPassword)
  have hash : change.hash = env.sha256 (env.secret ++ ":" ++ change.username ++ ":" ++ change.newPassword) := hashed
  rw [← hash] at colonless filled
  have parts := split_four.mpr ⟨rfl,named ▸ roleName_noColon name,roleName_noColon role,(parseI64_text parsed).1,colonless⟩
  have nonempty : change.username.isEmpty = false := named ▸ roleName_nonempty name
  have fresh : timestamp (expiresAt*1000000000) ≤ expiresAt := by
    unfold timestamp
    omega
  exact ⟨parts,AuthEnv.authenticatedUser_ok.mpr
    ⟨_,_,_,role,expiresAt,parts,nonempty,filled,parsed,fresh,signed,rfl⟩⟩

theorem sealed_apart (hexadecimal : ∀ text, NoColon (env.sha256 text) ∧ (env.sha256 text).isEmpty = false)
    (kept : ledger.Kept env) (sound : ledger.Sealed env) : ledger.Apart := by
  intro change member role expiresText looks expires
  obtain ⟨expiresAt,parsed⟩ := Option.isSome_iff_exists.mp expires
  obtain ⟨⟨name,named⟩,hashed⟩ := kept.changes change member
  obtain ⟨parts,admitted⟩ := forged_admitted hexadecimal named hashed looks parsed
  have signature := congrArg (fun parts : List String => parts[3]?) parts
  obtain ⟨response,issued,same,user,_⟩ := sound _ _ change.hash _ signature (.inr ⟨change,member,rfl⟩) admitted
  obtain ⟨holder,_,token⟩ := kept.logins response issued
  have issued_parts := AuthEnv.issueAuthToken_parts (fun text => (hexadecimal text).1) (roleName_noColon holder) holder
    (timestamp response.expiresAt)
  rw [← token,same,parts] at issued_parts
  simp only [List.cons.injEq] at issued_parts
  exact ⟨response,issued,user,issued_parts.2.2.1.symm⟩

-- The two texts that are hashed are the same only where their parts are.
theorem signature_parts (collisionFree : Function.Injective env.sha256) {one two rest tail : String} (first : NoColon one)
    (second : NoColon two) (same : env.authSignature (one ++ ":" ++ rest) = env.authSignature (two ++ ":" ++ tail)) :
    one = two ∧ rest = tail :=
  before_colon first second (String.append_right_inj (env.secret ++ ":") |>.mp (collisionFree same))

theorem payload_parts (username roleText expiresText : String) :
    username ++ ":" ++ roleText ++ ":" ++ expiresText = username ++ ":" ++ (roleText ++ ":" ++ expiresText) := by
  simp only [String.append_assoc]

-- A session with the user, role and expiry of an issued one is that session.
theorem issued_admitted {response : LoginResponse} {holder role : AuthRole} {now : Instant} {expiresText : String}
    {expiresAt : Int} (token : response.token = env.issueAuthToken (roleName holder) holder (timestamp response.expiresAt))
    (parsed : parseI64 expiresText = some expiresAt) (fresh : timestamp now ≤ expiresAt)
    (text : toString (timestamp response.expiresAt) = expiresText) (same : role = holder) :
    response.token = roleName holder ++ ":" ++ roleName role ++ ":" ++ expiresText ++ ":" ++
        env.authSignature (roleName holder ++ ":" ++ roleName role ++ ":" ++ expiresText) ∧
      timestamp now ≤ timestamp response.expiresAt := by
  subst same
  subst text
  rw [parseI64_int parsed] at fresh
  exact ⟨token,fresh⟩

theorem apart_sealed (collisionFree : Function.Injective env.sha256) (hexadecimal : ∀ text, NoColon (env.sha256 text))
    (kept : ledger.Kept env) (apart : ledger.Apart) : ledger.Sealed env := by
  intro now token signature user last digest admitted
  obtain ⟨username,expiresText,_,role,expiresAt,parts,_,_,parsed,fresh,rfl,rfl⟩ := AuthEnv.authenticatedUser_ok.mp admitted
  obtain ⟨written,nameless,_,_,_⟩ := split_four.mp parts
  rw [parts] at last
  cases last
  rcases digest with ⟨response,issued,signature⟩ | ⟨change,member,same⟩
  · obtain ⟨holder,user,token⟩ := kept.logins response issued
    have issued_parts := AuthEnv.issueAuthToken_parts hexadecimal (roleName_noColon holder) holder
      (timestamp response.expiresAt)
    rw [token,issued_parts] at signature
    have equal := Option.some.inj signature
    rw [payload_parts,payload_parts] at equal
    obtain ⟨rfl,rest⟩ := signature_parts collisionFree (roleName_noColon holder) nameless equal
    obtain ⟨named,text⟩ := before_colon (roleName_noColon holder) (roleName_noColon role) rest
    have role_same := roleName_inj named.symm
    obtain ⟨whole,current⟩ := issued_admitted token parsed fresh text role_same
    exact ⟨response,issued,whole.trans written.symm,role_same ▸ user,current⟩
  · obtain ⟨⟨name,named⟩,hashed⟩ := kept.changes change member
    rw [hashed,overrideHash_signature,payload_parts] at same
    obtain ⟨rfl,looks⟩ := signature_parts collisionFree (named ▸ roleName_noColon name) nameless same
    obtain ⟨response,issued,user,text⟩ := apart change member role expiresText looks (by simp [parsed])
    obtain ⟨holder,also,token⟩ := kept.logins response issued
    have users := user.symm.trans also
    have username : change.username = roleName holder := congrArg AuthUser.username users
    have role_same : role = holder := roleName_inj (congrArg AuthUser.role users)
    obtain ⟨whole,current⟩ := issued_admitted token parsed fresh text role_same
    rw [← username] at whole
    exact ⟨response,issued,whole.trans written.symm,user,current⟩

-- Stored data forges no session exactly where no password reads as a session that was not issued.
theorem sessions_unforgeable_iff (collisionFree : Function.Injective env.sha256)
    (hexadecimal : ∀ text, NoColon (env.sha256 text) ∧ (env.sha256 text).isEmpty = false)
    (requests : List (Instant × AuthRequest)) : (env.run requests).Sealed env ↔ (env.run requests).Apart := by
  have kept := AuthEnv.run_kept env requests
  exact ⟨sealed_apart hexadecimal kept,apart_sealed collisionFree (fun text => (hexadecimal text).1) kept⟩

end Forging

def spell (ch : Char) : List Char := if ch = ':' then ['y','c'] else if ch = 'y' then ['y','y'] else [ch]

def unspell : List Char → List Char
  | 'y' :: 'c' :: text => ':' :: unspell text
  | 'y' :: 'y' :: text => 'y' :: unspell text
  | ch :: text => ch :: unspell text
  | [] => []

theorem unspell_spell (text : List Char) : unspell (text.flatMap spell) = text := by
  induction text with
  | nil => rfl
  | cons ch text ih =>
      by_cases colon : ch = ':'
      · subst colon
        simp [spell,unspell,ih]
      · by_cases mark : ch = 'y'
        · subst mark
          simp [spell,unspell,ih]
        · simp [spell,unspell,colon,mark,ih]

theorem spell_noColon (text : List Char) : ':' ∉ text.flatMap spell := by
  intro colon
  obtain ⟨ch,_,inside⟩ := List.mem_flatMap.mp colon
  unfold spell at inside
  split at inside
  · simp at inside
  · split at inside
    · simp at inside
    · rename_i other _
      exact other (by simpa using Eq.symm (List.mem_singleton.mp inside))

-- The digests of the two texts that are hashed below, and others without collisions.
def sessionText : String := "xingshu-local-rbac-session-secret" ++ ":" ++ "operator:operator:1767268800"

def passwordText : String := "xingshu-local-rbac-session-secret" ++ ":" ++ "operator" ++ ":" ++ "admin:4102444800"

def sessionHash : String := "92f1704dd182f7a0e0bdbd19a76be005b92d65e2cdbfc27011e003a78b0860ec"

def passwordHash : String := "21109549a1bca8313d2ff3935a4967c4b688ce875e683146648c16822985a116"

def sessionDigest (text : String) : String :=
  if text = sessionText then sessionHash else if text = passwordText then passwordHash
  else String.ofList ('x' :: text.toList.flatMap spell)

def defaultEnv : AuthEnv := ⟨none,none,none,none,sessionDigest⟩

-- The operator logs in and takes a password that reads as an administrator's session.
def operatorRequests : List (Instant × AuthRequest) :=
  [(1767225600000000000,.login ⟨"operator","operator123"⟩),
    (1767225660000000000,.changePassword (some ("Bearer operator:operator:1767268800:" ++ sessionHash))
      ⟨"operator123","admin:4102444800"⟩ true)]

def operatorChange : PasswordChange := ⟨"operator","admin:4102444800",passwordHash⟩

def forgedToken : String := operatorChange.username ++ ":" ++ roleName .admin ++ ":" ++ "4102444800" ++ ":" ++ operatorChange.hash

theorem default_sha256 : defaultEnv.sha256 = sessionDigest := rfl

theorem default_injective : Function.Injective defaultEnv.sha256 := by
  rw [default_sha256]
  have marked : ∀ text, String.ofList ('x' :: text) ≠ sessionHash ∧ String.ofList ('x' :: text) ≠ passwordHash := by
    intro text
    have first : (String.ofList ('x' :: text)).toList.head? = some 'x' := by simp
    constructor <;> intro same <;> rw [same] at first <;> exact absurd first (by decide)
  have apart : sessionHash ≠ passwordHash := by decide
  intro one two same
  unfold sessionDigest at same
  have other := marked (one.toList.flatMap spell)
  have also := marked (two.toList.flatMap spell)
  have back : String.ofList ('x' :: one.toList.flatMap spell) = String.ofList ('x' :: two.toList.flatMap spell) → one = two := by
    intro equal
    have texts := (List.cons.inj (String.ofList_injective equal)).2
    have spelled := congrArg unspell texts
    rw [unspell_spell,unspell_spell] at spelled
    exact String.toList_inj.mp spelled
  grind

theorem default_text (text : String) : NoColon (defaultEnv.sha256 text) ∧ (defaultEnv.sha256 text).isEmpty = false := by
  rw [default_sha256]
  unfold sessionDigest
  split
  · decide
  · split
    · decide
    · constructor
      · unfold NoColon
        simpa using spell_noColon text.toList
      · simp

theorem sessions_unforgeable_default : Function.Injective defaultEnv.sha256 ∧
    (∀ text, NoColon (defaultEnv.sha256 text) ∧ (defaultEnv.sha256 text).isEmpty = false) ∧
    ((defaultEnv.run operatorRequests).Sealed defaultEnv ↔ (defaultEnv.run operatorRequests).Apart) :=
  ⟨default_injective,default_text,sessions_unforgeable_iff default_injective default_text operatorRequests⟩

-- The stored hash of the password is the signature of an administrator's session.
theorem operator_becomes_admin : Function.Injective defaultEnv.sha256 ∧
    (∀ text, NoColon (defaultEnv.sha256 text) ∧ (defaultEnv.sha256 text).isEmpty = false) ∧
    defaultEnv.authenticatedUser (4102444800*1000000000) (some ("Bearer " ++ forgedToken)) = .ok (authUser "operator" .admin) ∧
    ¬(defaultEnv.run operatorRequests).Sealed defaultEnv := by
  have apart : passwordText ≠ sessionText := by decide
  have hashed : operatorChange.hash = defaultEnv.passwordOverrideHash operatorChange.username operatorChange.newPassword := by
    change passwordHash = sessionDigest passwordText
    rw [sessionDigest,if_neg apart,if_pos rfl]
  have parsed : parseI64 "4102444800" = some 4102444800 := by decide +kernel
  have forged := @forged_admitted defaultEnv default_text operatorChange .operator .admin _ _ rfl hashed rfl parsed
  have token : forgedToken = operatorChange.username ++ ":" ++ roleName .admin ++ ":" ++ "4102444800" ++ ":" ++
    operatorChange.hash := rfl
  rw [← token] at forged
  refine ⟨default_injective,default_text,forged.2,?_⟩
  intro sound
  have reached : (defaultEnv.run operatorRequests).changes.map (·.hash) = [operatorChange.hash] ∧
      ∀ response ∈ (defaultEnv.run operatorRequests).logins, response.user.role = "operator" := by decide +kernel
  have digest : (defaultEnv.run operatorRequests).Digest operatorChange.hash :=
    .inr (List.mem_map.mp (reached.1 ▸ List.mem_singleton_self _))
  have signature : (split ':' forgedToken)[3]? = some operatorChange.hash := by rw [forged.1]; rfl
  obtain ⟨response,issued,_,user,_⟩ := sound _ forgedToken _ _ signature digest forged.2
  have operator := reached.2 response issued
  rw [user] at operator
  exact absurd operator (by decide)

end ReactorOS

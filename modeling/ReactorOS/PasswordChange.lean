import ReactorOS.Rekey
import ReactorOS.SessionForgery
namespace ReactorOS
open Wire

-- The table of the changed passwords, which only the SQLx store has, and the control events.
structure PasswordStore where
  sqlx : Bool
  overrides : Fields
  events : List ControlEvent

-- How the database answers the three statements of the handler.
structure PasswordAnswers where
  read : DbAnswer := .done
  write : DbAnswer := .done
  audit : DbAnswer := .done

namespace PasswordStore

-- The hashes that a login goes by.
def known (store : PasswordStore) : Fields := if store.sqlx then store.overrides else []

def passwordOverridesSqlx (store : PasswordStore) : DbAnswer → Except Failure Fields
  | .done => .ok store.known
  | .failed err | .lost err =>
      if store.sqlx then .error (err.context "failed to read auth password overrides with SQLx") else .ok []

def written (store : PasswordStore) (username passwordHash : String) : PasswordStore :=
  {store with overrides := (username,passwordHash) :: store.overrides}

def setPasswordOverrideSqlx (store : PasswordStore) (username passwordHash : String) (answer : DbAnswer) :
    Except Failure Unit × PasswordStore :=
  if !store.sqlx then (.error ⟨"password overrides require the SQLx store",[]⟩,store)
  else match answer with
  | .done => (.ok (),store.written username passwordHash)
  | .failed err => (.error (err.context "failed to persist auth password override with SQLx"),store)
  | .lost err => (.error (err.context "failed to persist auth password override with SQLx"),store.written username passwordHash)

def insertControlEventSqlx (store : PasswordStore) (event : ControlEvent) : DbAnswer → Except Failure Unit × PasswordStore
  | .done => (.ok (),{store with events := store.events ++ [event]})
  | .failed err => (.error err,store)
  | .lost err => (.error err,{store with events := store.events ++ [event]})

end PasswordStore

structure PasswordChangeResponse where
  username : String
  changed : Bool

def passwordChanged (user : AuthUser) : ControlEvent :=
  ⟨none,"password_changed",none,"local account password changed",⟨user.username,user.role⟩⟩

-- The handler over the store: the override is written before its audit row, each in a statement of its own.
def AuthEnv.answerPasswordChange (env : AuthEnv) (now : Instant) (authorization : Option String)
    (payload : ChangePasswordRequest) (answers : PasswordAnswers) (store : PasswordStore) :
    Except AppError PasswordChangeResponse × PasswordStore :=
  match env.authenticatedUser now authorization with
  | .error err => (.error err,store)
  | .ok user =>
    match store.passwordOverridesSqlx answers.read with
    | .error failure => (.error (.internal failure),store)
    | .ok overrides =>
      match env.preparePasswordChange user.username payload overrides with
      | .error err => (.error err,store)
      | .ok hash =>
        match store.setPasswordOverrideSqlx user.username hash answers.write with
        | (.error failure,store) => (.error (.internal failure),store)
        | (.ok (),store) =>
          match store.insertControlEventSqlx (passwordChanged user) answers.audit with
          | (.error failure,store) => (.error (.internal failure),store)
          | (.ok (),store) => (.ok ⟨user.username,true⟩,store)

variable {env : AuthEnv}

-- Who may log in with what, by the store as it is.
def AuthEnv.admits (env : AuthEnv) (store : PasswordStore) (username password : String) : Prop :=
  ∃ role, env.roleForLogin username password store.known = some role

def AuthEnv.logsIn (env : AuthEnv) (store : PasswordStore) (username password : String) : Prop :=
  ∀ later, ∃ session, env.loginResponse later ⟨username,password⟩ store.known = .ok session

def AuthEnv.keptOut (env : AuthEnv) (store : PasswordStore) (username password : String) : Prop :=
  ∀ later, ∃ err, env.loginResponse later ⟨username,password⟩ store.known = .error err

-- A change that is reported has taken effect, and one that is refused has none.
def SoundChange (env : AuthEnv) (payload : ChangePasswordRequest) (store : PasswordStore) :
    Except AppError PasswordChangeResponse × PasswordStore → Prop
  | (.ok response,after) => env.logsIn after response.username payload.newPassword ∧
      env.keptOut after response.username payload.oldPassword
  | (.error _,after) => ∀ username password, env.admits after username password ↔ env.admits store username password

-- The request comes as far as the table: the session, the old password and the new one are accepted.
structure Submitted (env : AuthEnv) (now : Instant) (authorization : Option String) (payload : ChangePasswordRequest)
    (answers : PasswordAnswers) (store : PasswordStore) (user : AuthUser) (hash : String) : Prop where
  session : env.authenticatedUser now authorization = .ok user
  read : answers.read = .done
  sqlx : store.sqlx = true
  prepared : env.preparePasswordChange user.username payload store.overrides = .ok hash

-- The hash keeps the passwords of the request apart.
def TellsApart (env : AuthEnv) (username : String) (payload : ChangePasswordRequest) : Prop :=
  ∀ one ∈ [payload.oldPassword,payload.newPassword,trim payload.newPassword],
    ∀ other ∈ [payload.oldPassword,payload.newPassword,trim payload.newPassword],
    env.passwordOverrideHash username one = env.passwordOverrideHash username other → one = other

-- The new password has no blank at either end, and nothing fails once it is in the table.
def Effective (payload : ChangePasswordRequest) (answers : PasswordAnswers) : Prop :=
  match answers.write with
  | .done => answers.audit = .done ∧ trim payload.newPassword = payload.newPassword
  | .failed _ => True
  | .lost _ => False

namespace AuthEnv

-- A stored hash is the only word on the password of its user.
theorem roleForLogin_written (role : AuthRole) (password hash : String) (rest : Fields) :
    env.roleForLogin (roleName role) password ((roleName role,hash) :: rest) =
      if hash = env.passwordOverrideHash (roleName role) password then some role else none := by
  by_cases same : hash = env.passwordOverrideHash (roleName role) password
  · rw [if_pos same]
    cases role <;> simp [roleForLogin,roleName,same]
  · rw [if_neg same]
    cases role <;> simp [roleForLogin,roleName] <;> exact same

theorem preparePasswordChange_ok {username hash : String} {payload : ChangePasswordRequest} {overrides : Fields}
    (prepared : env.preparePasswordChange username payload overrides = .ok hash) :
    (∃ role, username = roleName role ∧ env.roleForLogin username payload.oldPassword overrides = some role) ∧
      trim payload.newPassword ≠ payload.oldPassword ∧ hash = env.passwordOverrideHash username (trim payload.newPassword) := by
  unfold preparePasswordChange at prepared
  cases login : env.roleForLogin username payload.oldPassword overrides with
  | none =>
      rw [login] at prepared
      cases prepared
  | some role =>
      rw [login] at prepared
      simp only [Option.isNone_some,Bool.false_eq_true,if_false] at prepared
      split at prepared
      · cases prepared
      · split at prepared
        · cases prepared
        · rename_i differs
          cases prepared
          exact ⟨⟨role,roleForLogin_some login,rfl⟩,differs,rfl⟩

theorem roleName_login (role : AuthRole) : toAsciiLowercase (trim (roleName role)) = roleName role := by
  cases role <;> decide

theorem loginResponse_known (later : Instant) (role : AuthRole) (password : String) (overrides : Fields) :
    (∃ session, env.loginResponse later ⟨roleName role,password⟩ overrides = .ok session) ↔
      ∃ found, env.roleForLogin (roleName role) password overrides = some found := by
  unfold loginResponse
  simp only [roleName_login]
  cases env.roleForLogin (roleName role) password overrides with
  | none => simp
  | some found => simp

theorem logsIn_iff (store : PasswordStore) (role : AuthRole) (password : String) :
    env.logsIn store (roleName role) password ↔ env.admits store (roleName role) password := by
  unfold logsIn admits
  simp only [loginResponse_known,forall_const]

theorem keptOut_iff (store : PasswordStore) (role : AuthRole) (password : String) :
    env.keptOut store (roleName role) password ↔ ¬env.admits store (roleName role) password := by
  unfold keptOut admits
  have refused : ∀ later, (∃ err, env.loginResponse later ⟨roleName role,password⟩ store.known = .error err) ↔
      ¬∃ found, env.roleForLogin (roleName role) password store.known = some found := by
    intro later
    rw [← loginResponse_known later]
    cases env.loginResponse later ⟨roleName role,password⟩ store.known with
    | error err => simp
    | ok session => simp
  simp only [refused,forall_const]

theorem admits_written {store : PasswordStore} (sqlx : store.sqlx = true) (role : AuthRole) (hash password : String) :
    env.admits (store.written (roleName role) hash) (roleName role) password ↔
      hash = env.passwordOverrideHash (roleName role) password := by
  unfold admits
  rw [PasswordStore.known,PasswordStore.written,if_pos sqlx,roleForLogin_written]
  by_cases same : hash = env.passwordOverrideHash (roleName role) password
  · simp [same]
  · simp [same]

end AuthEnv

section Served
variable {now : Instant} {authorization : Option String} {payload : ChangePasswordRequest} {answers : PasswordAnswers}
  {store : PasswordStore}

theorem passwordOverridesSqlx_ok {answer : DbAnswer} {overrides : Fields} (sqlx : store.sqlx = true)
    (read : store.passwordOverridesSqlx answer = .ok overrides) : answer = .done ∧ overrides = store.overrides := by
  simp only [PasswordStore.passwordOverridesSqlx,PasswordStore.known,sqlx,if_true] at read
  cases answer with
  | done => exact ⟨rfl,(Except.ok.inj read).symm⟩
  | failed err => cases read
  | lost err => cases read

-- A request that does not come as far as the table is refused.
theorem unsubmitted_refused (never : ∀ user hash, ¬Submitted env now authorization payload answers store user hash) :
    ∃ err, env.answerPasswordChange now authorization payload answers store = (.error err,store) := by
  unfold AuthEnv.answerPasswordChange
  cases session : env.authenticatedUser now authorization with
  | error err => exact ⟨err,rfl⟩
  | ok user =>
      simp only
      cases read : store.passwordOverridesSqlx answers.read with
      | error failure => exact ⟨_,rfl⟩
      | ok overrides =>
          simp only
          cases prepared : env.preparePasswordChange user.username payload overrides with
          | error err => exact ⟨err,rfl⟩
          | ok hash =>
              cases sqlx : store.sqlx with
              | false => simp [PasswordStore.setPasswordOverrideSqlx,sqlx]
              | true =>
                  obtain ⟨answered,rfl⟩ := passwordOverridesSqlx_ok sqlx read
                  exact absurd ⟨session,answered,sqlx,prepared⟩ (never user hash)

-- The override of the user, its audit row, and the answer.
theorem submitted_served {user : AuthUser} {hash : String}
    (submitted : Submitted env now authorization payload answers store user hash) :
    env.answerPasswordChange now authorization payload answers store =
      match store.setPasswordOverrideSqlx user.username hash answers.write with
      | (.error failure,store) => (.error (.internal failure),store)
      | (.ok (),store) =>
        match store.insertControlEventSqlx (passwordChanged user) answers.audit with
        | (.error failure,store) => (.error (.internal failure),store)
        | (.ok (),store) => (.ok ⟨user.username,true⟩,store) := by
  unfold AuthEnv.answerPasswordChange
  rw [submitted.session,submitted.read,PasswordStore.passwordOverridesSqlx,PasswordStore.known,if_pos submitted.sqlx]
  simp only [submitted.prepared]

-- Once the override is in the table the old password is out, and the new one is in as it was trimmed.
theorem written_passwords {user : AuthUser} {hash : String} (apart : TellsApart env user.username payload)
    (submitted : Submitted env now authorization payload answers store user hash) :
    ∃ role, user.username = roleName role ∧ env.admits store user.username payload.oldPassword ∧
      ¬env.admits (store.written user.username hash) user.username payload.oldPassword ∧
      (env.admits (store.written user.username hash) user.username payload.newPassword ↔
        trim payload.newPassword = payload.newPassword) := by
  obtain ⟨⟨role,named,login⟩,differs,rfl⟩ := AuthEnv.preparePasswordChange_ok submitted.prepared
  refine ⟨role,named,⟨role,?_⟩,?_,?_⟩
  · rw [PasswordStore.known,if_pos submitted.sqlx]
    exact login
  · rw [named,AuthEnv.admits_written submitted.sqlx]
    intro same
    exact differs (apart _ (by simp) _ (by simp) (named ▸ same))
  · rw [named,AuthEnv.admits_written submitted.sqlx]
    constructor
    · intro same
      exact apart _ (by simp) _ (by simp) (named ▸ same)
    · intro same
      rw [same]

-- An error behind the write comes too late for the old password.
theorem late_error_unsound {user : AuthUser} {hash : String} {later : PasswordStore} (err : AppError)
    (before : env.admits store user.username payload.oldPassword)
    (after : ¬env.admits (store.written user.username hash) user.username payload.oldPassword)
    (written : later.known = (store.written user.username hash).known) : ¬SoundChange env payload store (.error err,later) := by
  intro sound
  have kept := (sound user.username payload.oldPassword).mpr before
  unfold AuthEnv.admits at kept after
  rw [written] at kept
  exact after kept

theorem password_change_sound_iff
    (apart : ∀ user, env.authenticatedUser now authorization = .ok user → TellsApart env user.username payload) :
    SoundChange env payload store (env.answerPasswordChange now authorization payload answers store) ↔
      ∀ user hash, Submitted env now authorization payload answers store user hash → Effective payload answers := by
  by_cases found : ∃ user hash, Submitted env now authorization payload answers store user hash
  · obtain ⟨user,hash,submitted⟩ := found
    obtain ⟨role,named,before,after,trimmed⟩ := written_passwords (apart user submitted.session) submitted
    have asked : (∀ user hash, Submitted env now authorization payload answers store user hash → Effective payload answers) ↔
        Effective payload answers := ⟨fun all => all user hash submitted,fun effective _ _ _ => effective⟩
    rw [submitted_served submitted,asked,Effective]
    cases answers.write with
    | failed err =>
        simp only [PasswordStore.setPasswordOverrideSqlx,submitted.sqlx,Bool.not_true,Bool.false_eq_true,if_false]
        exact iff_of_true (fun _ _ => Iff.rfl) trivial
    | lost err =>
        simp only [PasswordStore.setPasswordOverrideSqlx,submitted.sqlx,Bool.not_true,Bool.false_eq_true,if_false]
        exact iff_of_false (late_error_unsound _ before after rfl) id
    | done =>
        simp only [PasswordStore.setPasswordOverrideSqlx,submitted.sqlx,Bool.not_true,Bool.false_eq_true,if_false]
        cases answers.audit with
        | failed err => exact iff_of_false (late_error_unsound _ before after rfl) nofun
        | lost err => exact iff_of_false (late_error_unsound _ before after rfl) nofun
        | done =>
            simp only [PasswordStore.insertControlEventSqlx,SoundChange,true_and]
            rw [named] at trimmed after ⊢
            rw [AuthEnv.logsIn_iff,AuthEnv.keptOut_iff]
            constructor
            · intro sound
              exact trimmed.mp sound.1
            · intro same
              exact ⟨trimmed.mpr same,after⟩
  · simp only [not_exists] at found
    obtain ⟨err,served⟩ := unsubmitted_refused found
    rw [served]
    constructor
    · intro _ user hash submitted
      exact absurd submitted (found user hash)
    · intro _ username password
      exact Iff.rfl

end Served

-- The digests of the four texts that are hashed below.
def operatorText (password : String) : String := "xingshu-local-rbac-session-secret" ++ ":" ++ "operator" ++ ":" ++ password

def changeDigest (text : String) : String :=
  ([(sessionText,sessionHash),
    (operatorText "operator123","ec92649e61c234bbb7fdccbbf98c1d1e56e7d7a3d65848f265d3b5709868a67b"),
    (operatorText "stronger pw","957197cea0f4035c8b6aeda835854d0c5a89e8cc2fd993f5e9be637a59236b26"),
    (operatorText "stronger pw ","b23016be6b9064d60441ea732a6ef757457d510a560aafae064fdce087eec50d")].lookup text).getD text

def changeEnv : AuthEnv := ⟨none,none,none,none,changeDigest⟩

def changeStore : PasswordStore := ⟨true,[],[]⟩

def changeAt : Instant := 1767225660000000000

def operatorSession : Option String := some ("Bearer operator:operator:1767268800:" ++ sessionHash)

def changeTo (newPassword : String) : ChangePasswordRequest := ⟨"operator123",newPassword⟩

theorem operator_session : changeEnv.authenticatedUser changeAt operatorSession = .ok (authUser "operator" .operator) := by
  decide +kernel

theorem changeTo_apart {newPassword : String} (apart : TellsApart changeEnv "operator" (changeTo newPassword)) :
    ∀ user, changeEnv.authenticatedUser changeAt operatorSession = .ok user →
      TellsApart changeEnv user.username (changeTo newPassword) := by
  intro user session
  rw [operator_session] at session
  cases session
  exact apart

theorem password_change_sound_iff_stronger : SoundChange changeEnv (changeTo "stronger pw") changeStore
    (changeEnv.answerPasswordChange changeAt operatorSession (changeTo "stronger pw") {} changeStore) := by
  have apart : TellsApart changeEnv "operator" (changeTo "stronger pw") := by
    unfold TellsApart
    decide +kernel
  rw [password_change_sound_iff (changeTo_apart apart)]
  intro user hash submitted
  exact ⟨rfl,by decide⟩

-- A blank behind the new password: the change is reported, and no one logs in with what was sent.
theorem padded_password_lost : ∃ after,
    changeEnv.answerPasswordChange changeAt operatorSession (changeTo "stronger pw ") {} changeStore =
      (.ok ⟨"operator",true⟩,after) ∧
    changeEnv.keptOut after "operator" "stronger pw " ∧ ¬SoundChange changeEnv (changeTo "stronger pw ") changeStore
      (changeEnv.answerPasswordChange changeAt operatorSession (changeTo "stronger pw ") {} changeStore) := by
  have prepared : changeEnv.preparePasswordChange "operator" (changeTo "stronger pw ") [] =
      .ok (changeEnv.passwordOverrideHash "operator" "stronger pw") := by decide +kernel
  have submitted : Submitted changeEnv changeAt operatorSession (changeTo "stronger pw ") {} changeStore
      (authUser "operator" .operator) (changeEnv.passwordOverrideHash "operator" "stronger pw") :=
    ⟨operator_session,rfl,rfl,prepared⟩
  have served := submitted_served submitted
  have stored : changeEnv.passwordOverrideHash "operator" "stronger pw" ≠
      changeEnv.passwordOverrideHash "operator" "stronger pw " := by decide +kernel
  have refused : ¬changeEnv.admits (changeStore.written (roleName .operator)
      (changeEnv.passwordOverrideHash "operator" "stronger pw")) (roleName .operator) "stronger pw " :=
    fun admitted => stored ((AuthEnv.admits_written rfl .operator _ _).mp admitted)
  have out := (AuthEnv.keptOut_iff _ .operator _).mpr refused
  refine ⟨_,served,out,?_⟩
  rw [served]
  intro sound
  exact refused ((AuthEnv.logsIn_iff _ .operator _).mp sound.1)

end ReactorOS

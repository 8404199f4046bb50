import ReactorOS.World
import ReactorOS.Text
import ReactorOS.Wire.Fields
import ReactorOS.Wire.Decimal
namespace ReactorOS
open Wire

def AppError.unauthorized (message : String) : AppError := ⟨401,message⟩

inductive AuthRole where
  | operator | engineer | admin
  deriving DecidableEq, Repr

inductive Permission where
  | viewMonitor | viewHistory | viewAudit | exportReports | editProcess | startStopProcess | setSafeTargets
  | applyAiSuggestion | emergencyStop | modbusDebug | editSystemConfig | deleteData | manageUsers
  | ingestSensorSample | applyIntegrationTask
  deriving DecidableEq, Repr

def allPermissions : List Permission :=
  [.viewMonitor,.viewHistory,.viewAudit,.exportReports,.editProcess,.startStopProcess,.setSafeTargets,
    .applyAiSuggestion,.emergencyStop,.modbusDebug,.editSystemConfig,.deleteData,.manageUsers,
    .ingestSensorSample,.applyIntegrationTask]

def permissionName : Permission → String
  | .viewMonitor => "view_monitor"
  | .viewHistory => "view_history"
  | .viewAudit => "view_audit"
  | .exportReports => "export_reports"
  | .editProcess => "edit_process"
  | .startStopProcess => "start_stop_process"
  | .setSafeTargets => "set_safe_targets"
  | .applyAiSuggestion => "apply_ai_suggestion"
  | .emergencyStop => "emergency_stop"
  | .modbusDebug => "modbus_debug"
  | .editSystemConfig => "edit_system_config"
  | .deleteData => "delete_data"
  | .manageUsers => "manage_users"
  | .ingestSensorSample => "ingest_sensor_sample"
  | .applyIntegrationTask => "apply_integration_task"

def roleAllows (role : AuthRole) (permission : Permission) : Bool :=
  match role with
  | .operator => [.viewMonitor,.viewHistory,.exportReports,.startStopProcess,.setSafeTargets,.applyAiSuggestion,
      .emergencyStop].contains permission
  | .engineer => [.viewMonitor,.viewHistory,.viewAudit,.exportReports,.editProcess,.startStopProcess,.setSafeTargets,
      .applyAiSuggestion,.emergencyStop,.modbusDebug,.ingestSensorSample,.applyIntegrationTask].contains permission
  | .admin => true

def permissionNamesForRole (role : AuthRole) : List String :=
  (allPermissions.filter (roleAllows role)).map permissionName

def roleName : AuthRole → String
  | .operator => "operator"
  | .engineer => "engineer"
  | .admin => "admin"

def roleFromName (role : String) : Option AuthRole := [AuthRole.operator,.engineer,.admin].find? fun known => roleName known = role

structure AuthUser where
  username : String
  role : String
  permissions : List String
  deriving DecidableEq

def authUser (username : String) (role : AuthRole) : AuthUser := ⟨username,roleName role,permissionNamesForRole role⟩

-- The environment variables, and the SHA-256 of a text in hexadecimal.
structure AuthEnv where
  authSecret : Option String
  operatorPassword : Option String
  engineerPassword : Option String
  adminPassword : Option String
  sha256 : String → String

namespace AuthEnv
variable (env : AuthEnv)

def secret : String := env.authSecret.getD "xingshu-local-rbac-session-secret"

def authSignature (payload : String) : String := env.sha256 (env.secret ++ ":" ++ payload)

def passwordOverrideHash (username password : String) : String :=
  env.sha256 (env.secret ++ ":" ++ username ++ ":" ++ password)

def issueAuthToken (username : String) (role : AuthRole) (expiresAt : Int) : String :=
  let payload := username ++ ":" ++ roleName role ++ ":" ++ toString expiresAt
  payload ++ ":" ++ env.authSignature payload

-- `overrides` holds the hashes of the passwords that were changed.
def roleForLogin (username password : String) (overrides : Fields) : Option AuthRole :=
  let candidates := [
    ("operator",env.operatorPassword.getD "operator123",AuthRole.operator),
    ("engineer",env.engineerPassword.getD "engineer123",AuthRole.engineer),
    ("admin",env.adminPassword.getD "admin123",AuthRole.admin)]
  (candidates.find? fun (candidate,expected,_) => username == candidate &&
    match overrides.lookup username with
    | some hash => hash == env.passwordOverrideHash username password
    | none => password == expected).map fun (_,_,role) => role

end AuthEnv

structure LoginRequest where
  username : String
  password : String

structure ChangePasswordRequest where
  oldPassword : String
  newPassword : String

structure LoginResponse where
  token : String
  user : AuthUser
  expiresAt : Instant
  deriving DecidableEq

-- Whole seconds since the epoch.
def timestamp (time : Instant) : Int := time / 1000000000

def toAsciiLowercase (text : String) : String := String.ofList (text.toList.map Char.toLower)

-- A decimal integer with an optional sign that fits an `i64`.
def parseI64 (text : String) : Option Int :=
  (parseExponent text.toList).filter fun number => -2^63 ≤ number && number < 2^63

def stripPrefix (label text : String) : Option String :=
  if label.toList.isPrefixOf text.toList then some (String.ofList (text.toList.drop label.length)) else none

theorem stripPrefix_append (label rest : String) : stripPrefix label (label ++ rest) = some rest := by
  have here : label.toList.isPrefixOf (label ++ rest).toList = true := by
    rw [String.toList_append]
    exact List.isPrefixOf_iff_prefix.mpr (List.prefix_append _ _)
  rw [stripPrefix,if_pos here,String.toList_append,← String.length_toList,List.drop_left,String.ofList_toList]

namespace AuthEnv
variable (env : AuthEnv)

@[irreducible] def loginResponse (now : Instant) (payload : LoginRequest) (overrides : Fields) : Except AppError LoginResponse :=
  let username := toAsciiLowercase (trim payload.username)
  match env.roleForLogin username payload.password overrides with
  | none => .error (.unauthorized "invalid username or password")
  | some role =>
      let expiresAt := now + 12*3600*1000000000
      .ok ⟨env.issueAuthToken username role (timestamp expiresAt),authUser username role,expiresAt⟩

-- `authorization` is the header where it is there and visible text.
def authenticatedUser (now : Instant) (authorization : Option String) : Except AppError AuthUser :=
  match authorization with
  | none => .error (.unauthorized "missing bearer session token")
  | some header =>
      match stripPrefix "Bearer " header with
      | none => .error (.unauthorized "authorization must use Bearer token")
      | some token =>
          match split ':' token with
          | [username,roleText,expiresText,signature] =>
              if username.isEmpty || roleText.isEmpty || expiresText.isEmpty || signature.isEmpty then
                .error (.unauthorized "invalid bearer session token")
              else match parseI64 expiresText with
              | none => .error (.unauthorized "invalid bearer session expiry")
              | some expiresAt =>
                  if expiresAt < timestamp now then .error (.unauthorized "bearer session has expired")
                  else if env.authSignature (username ++ ":" ++ roleText ++ ":" ++ expiresText) ≠ signature then
                    .error (.unauthorized "invalid bearer session signature")
                  else match roleFromName roleText with
                  | none => .error (.unauthorized "invalid bearer session role")
                  | some role => .ok (authUser username role)
          | _ => .error (.unauthorized "invalid bearer session token")

def preparePasswordChange (username : String) (payload : ChangePasswordRequest) (overrides : Fields) :
    Except AppError String :=
  if (env.roleForLogin username payload.oldPassword overrides).isNone then
    .error (.unauthorized "current password is incorrect")
  else
    let newPassword := trim payload.newPassword
    if newPassword.utf8ByteSize < 6 then .error (.badRequest "new password must be at least 6 characters")
    else if newPassword = payload.oldPassword then
      .error (.badRequest "new password must differ from the current password")
    else .ok (env.passwordOverrideHash username newPassword)

-- The user whose password changes, and the hash that is written for it.
@[irreducible] def authChangePassword (now : Instant) (authorization : Option String) (payload : ChangePasswordRequest)
    (overrides : Fields) : Except AppError (AuthUser × String) := do
  let user ← env.authenticatedUser now authorization
  let hash ← env.preparePasswordChange user.username payload overrides
  return (user,hash)

end AuthEnv

-- What changed the password of a user, with the hash that was stored.
structure PasswordChange where
  username : String
  newPassword : String
  hash : String

-- The stored hashes, and all that the daemon has returned and stored so far.
structure AuthLedger where
  overrides : Fields
  logins : List LoginResponse
  changes : List PasswordChange

def AuthLedger.empty : AuthLedger := ⟨[],[],[]⟩

-- `written` says whether the database took the hash.
inductive AuthRequest where
  | login (payload : LoginRequest)
  | changePassword (authorization : Option String) (payload : ChangePasswordRequest) (written : Bool)

namespace AuthLedger

def loggedIn (ledger : AuthLedger) : Except AppError LoginResponse → AuthLedger
  | .error _ => ledger
  | .ok response => {ledger with logins := response :: ledger.logins}

def changed (ledger : AuthLedger) (payload : ChangePasswordRequest) (written : Bool) :
    Except AppError (AuthUser × String) → AuthLedger
  | .error _ => ledger
  | .ok (user,hash) =>
      if written then
        {ledger with overrides := (user.username,hash) :: ledger.overrides
                     changes := ⟨user.username,trim payload.newPassword,hash⟩ :: ledger.changes}
      else ledger

end AuthLedger

namespace AuthEnv
variable (env : AuthEnv)

def serve (ledger : AuthLedger) (now : Instant) : AuthRequest → AuthLedger
  | .login payload => ledger.loggedIn (env.loginResponse now payload ledger.overrides)
  | .changePassword authorization payload written =>
      ledger.changed payload written (env.authChangePassword now authorization payload ledger.overrides)

def run (requests : List (Instant × AuthRequest)) : AuthLedger :=
  requests.foldl (fun ledger (now,request) => env.serve ledger now request) .empty

end AuthEnv

end ReactorOS

import GatewayVpn.Calendar
import GatewayVpn.Durable.Pool
import GatewayVpn.Durable.Table

/-!
# The local administrators and their sessions

The service keeps users with a password hash, sessions that were opened by a login, and a count of
failed logins.  Every operation is a procedure: what it does inside one database transaction is one
call, and what it reads before, the random source included, are calls of their own.  So two
operations interleave exactly between their transactions.

A time that is stored as text is kept as the instant it was formatted from.  It is read back unless
the year does not have four digits.
-/

namespace GatewayVpn.Auth

open Durable

/-! ## passwords -/

structure Argon2Parameters where
  memoryKiB : Nat
  iterations : Nat
  parallelism : Nat
  saltBytes : Nat
  keyBytes : Nat

inductive Fault where
  | invalidCredentials
  | rateLimited
  | invalidSession
  | invalidUsername
  | usernameExists
  | noUserChanges
  | selfUserMutation
  | lastEnabledUser
  | userMustBeDisabled
  | passwordUnchanged
  | credentialsChanged
  | selfPasswordReset
  | invalidSessionID
  | invalidPassword
  | notFound
  /-- an error that the caller cannot tell apart: of the database, the random source, a stored hash
  or a stored time -/
  | wrapped (context : String)

structure Library where
  digestHex : String → String
  toLower : String → String
  idKey : String → String → Argon2Parameters → String
  encode : Argon2Parameters → String → String → String
  decode : String → Option (Argon2Parameters × String × String)

def validateArgon2Parameters (p : Argon2Parameters) : Bool :=
  !(p.memoryKiB < 8 * 1024 || p.memoryKiB > 256 * 1024 || p.iterations < 1 || p.iterations > 10 ||
    p.parallelism < 1 || p.parallelism > 8 || p.saltBytes < 16 || p.saltBytes > 64 ||
    p.keyBytes < 32 || p.keyBytes > 64)

def parsePasswordHash (lib : Library) (encoded : String) :
    Except Fault (Argon2Parameters × String × String) :=
  match lib.decode encoded with
  | none => .error (.wrapped "unsupported password hash format")
  | some (p, salt, key) =>
    if validateArgon2Parameters p then .ok (p, salt, key)
    else .error (.wrapped "Argon2id parameters are outside safe supported limits")

def verifyPassword (lib : Library) (password encoded : String) : Except Fault Bool :=
  match parsePasswordHash lib encoded with
  | .error e => .error e
  | .ok (p, salt, expected) => .ok (lib.idKey password salt p == expected)

structure Service where
  lib : Library
  parameters : Argon2Parameters
  sessionLifetime : Int

def defaultArgon2Parameters : Argon2Parameters := ⟨64 * 1024, 3, 2, 16, 32⟩

namespace Service

def effectiveParameters (s : Service) : Argon2Parameters :=
  if s.parameters.memoryKiB = 0 then defaultArgon2Parameters else s.parameters

def lifetime (s : Service) : Int :=
  if s.sessionLifetime ≤ 0 then 12 * 3600 * nanosPerSecond else s.sessionLifetime

def hashWith (s : Service) (password salt : String) : String :=
  s.lib.encode s.effectiveParameters salt (s.lib.idKey password salt s.effectiveParameters)

def refusesPassword (s : Service) (password : String) : Option Fault :=
  if byteLength password < 12 || byteLength password > 1024 then some .invalidPassword
  else if validateArgon2Parameters s.effectiveParameters then none
  else some (.wrapped "Argon2id parameters are outside safe supported limits")

end Service

/-! ## the database -/

structure UserRow where
  id : String
  username : String
  passwordHash : String
  enabled : Bool
  mustChangePassword : Bool
  createdAt : Int
  updatedAt : Int

structure SessionRow where
  idHash : String
  userID : String
  csrfHash : String
  createdAt : Int
  expiresAt : Int
  lastSeenAt : Int
  revokedAt : Option Int
  clientKeyHash : String

structure LoginAttempt where
  keyHash : String
  failures : Nat
  firstFailureAt : Int
  lastFailureAt : Int
  blockedUntil : Option Int

inductive EventType where
  | bootstrapAdminCreated (userID username : String)
  | loginRateLimited (usernameSHA256 : String)
  | loginFailed (usernameSHA256 : String)
  | loginSucceeded (userID username : String) (mustChangePassword : Bool)
  | logout (userID username : String)
  | userCreated (actorUserID userID username : String)
  | userUpdated (actorUserID userID username : String) (enabled : Bool)
  | userEnabled (actorUserID userID username : String) (enabled : Bool)
  | userDisabled (actorUserID userID username : String) (enabled : Bool)
  | userDeleted (actorUserID userID username : String)
  | passwordChanged (userID : String) (otherSessionsRevoked : Bool)
  | passwordReset (actorUserID userID username : String) (mustChangePassword : Bool)
  | sessionRevoked (actorUserID targetUserID targetUsername : String) (currentSession : Bool)

structure Event where
  occurredAt : Int
  type : EventType

/-- what an answered transaction has done -/
inductive Deed where
  | opened (session user password hash : String)
  | changed (user session : String)
  | reset (user : String)
  | disabled (user : String)
  | enabled (user : String)
  | deleted (user : String)
  | revoked (session : String)

structure World where
  users : Table UserRow.id
  sessions : Table SessionRow.idHash
  loginAttempts : Table LoginAttempt.keyHash
  events : List Event
  /-- the clock's reading number `reads` is the next one -/
  clock : Nat → Int
  reads : Nat
  /-- what the random source gives, as text; `draws` values have been taken -/
  chance : Nat → String
  draws : Nat
  history : List Deed

namespace World

def fresh (clock : Nat → Int) (chance : Nat → String) : World where
  users := .empty
  sessions := .empty
  loginAttempts := .empty
  events := []
  clock := clock
  reads := 0
  chance := chance
  draws := 0
  history := []

def now (w : World) : Int := w.clock w.reads
def tick (w : World) : World := { w with reads := w.reads + 1 }
def drawn (w : World) : String := w.chance w.draws
def draw (w : World) : World := { w with draws := w.draws + 1 }

def audit (w : World) (at' : Int) (type : EventType) : World :=
  { w with events := w.events ++ [⟨at', type⟩] }

def record (w : World) (d : Deed) : World := { w with history := d :: w.history }

end World

/-- `a > b` between two stored times -/
def textAfter (a b : Int) : Bool := rfc3339Nano b < rfc3339Nano a

/-- equal under `COLLATE NOCASE` -/
def sameName (a b : String) : Bool := a.toList.map Char.toLower = b.toList.map Char.toLower

def asciiAlphaNumeric (c : Char) : Bool := isLower c || isUpper c || isDigit c

def validateUsername (value : String) : Except Fault String :=
  let value := trimSpace value
  if byteLength value < 3 || byteLength value > 64 then .error .invalidUsername
  else
    match value.toList with
    | [] => .error .invalidUsername
    | first :: rest =>
      if asciiAlphaNumeric first &&
          rest.all (fun c => asciiAlphaNumeric c || c = '.' || c = '_' || c = '-') then
        .ok value
      else .error .invalidUsername

structure Session where
  id : String
  token : String
  csrfToken : String
  userID : String
  username : String
  mustChangePassword : Bool
  expiresAt : Int

structure Principal where
  userID : String
  username : String
  mustChangePassword : Bool
  expiresAt : Int
  csrfHash : String
  sessionHash : String

structure User where
  id : String
  username : String
  enabled : Bool
  mustChangePassword : Bool
  activeSessions : Nat
  createdAt : Int
  updatedAt : Int

structure UpdateUserInput where
  username : Option String
  enabled : Option Bool

/-! ## transactions -/

/-- the error text of a transaction that did not commit, or whose commit was not acknowledged -/
def storage : Fault := .wrapped "database"

section
variable (w : World)

def loginBlocked (key : String) (now : Int) : Bool :=
  match w.loginAttempts.find key with
  | none => false
  | some a =>
    match a.blockedUntil.bind parseTime with
    | none => false
    | some until' => now < until'

def LoginAttempt.next (key : String) (now : Int) (a : Option LoginAttempt) : LoginAttempt :=
  let failures := (a.elim 0 LoginAttempt.failures) + 1
  { keyHash := key
    failures := failures
    firstFailureAt := a.elim now LoginAttempt.firstFailureAt
    lastFailureAt := now
    blockedUntil :=
      if failures ≥ 3 then some (now + nanosPerSecond * 2 ^ min (failures - 3) 8) else none }

def World.recordLoginFailure (key : String) (now : Int) : World :=
  let row := LoginAttempt.next key now (w.loginAttempts.find key)
  { w with loginAttempts := (w.loginAttempts.delete fun a => a.keyHash = key).ensure row }

def World.openSession (sessions : Table SessionRow.idHash) (key : String) (now : Int)
    (user : UserRow) : World :=
  let v : World := { w with
    sessions := sessions
    loginAttempts := w.loginAttempts.delete fun a => a.keyHash = key }
  v.audit now (.loginSucceeded user.id user.username user.mustChangePassword)

def Service.placeholder (s : Service) (salt : String) : Except Fault String :=
  match s.refusesPassword "invalid-password-placeholder" with
  | some e => .error e
  | none => .ok (s.hashWith "invalid-password-placeholder" salt)

def World.rejectLogin (s : Service) (key username : String) (now : Int) : World :=
  (w.recordLoginFailure key now).audit now
    (.loginFailed (s.lib.digestHex (s.lib.toLower username)))

def acceptLogin (s : Service) (user : UserRow) (key clientKey : String) (now : Int)
    (w : World) : Except Fault Session × World :=
  let token := w.drawn
  let csrf := w.draw.drawn
  let expires := now + s.lifetime
  let row : SessionRow :=
    { idHash := s.lib.digestHex token, userID := user.id, csrfHash := s.lib.digestHex csrf,
      createdAt := now, expiresAt := expires, lastSeenAt := now, revokedAt := none,
      clientKeyHash := s.lib.digestHex clientKey }
  match w.sessions.insert row with
  | none => (.error (.wrapped "insert login session"), w.draw.draw)
  | some sessions =>
    (.ok ⟨s.lib.digestHex token, token, csrf, user.id, user.username, user.mustChangePassword,
        expires⟩,
      w.draw.draw.openSession sessions key now user)

def login (s : Service) (username password clientKey : String) (w : World) :
    Except Fault Session × World :=
  let key := s.lib.digestHex (s.lib.toLower username ++ "\x00" ++ clientKey)
  let now := w.now
  if loginBlocked w key now then
    (.error .rateLimited, w.tick.audit now
      (.loginRateLimited (s.lib.digestHex (s.lib.toLower username))))
  else
    match w.users.rows.find? fun u => sameName u.username username with
    | none =>
      match s.placeholder w.drawn with
      | .error e => (.error e, w.tick)
      | .ok hash =>
        match verifyPassword s.lib password hash with
        | .error e => (.error e, w.tick.draw)
        | .ok _ => (.error .invalidCredentials, w.tick.draw.rejectLogin s key username now)
    | some user =>
      match verifyPassword s.lib password user.passwordHash with
      | .error e => (.error e, w.tick)
      | .ok verified =>
        if user.enabled && verified then acceptLogin s user key clientKey now w.tick
        else (.error .invalidCredentials, w.tick.rejectLogin s key username now)

/-- the joined row that `Authenticate` reads -/
def findSession (idHash : String) (w : World) : Except Fault Principal :=
  match w.sessions.find idHash with
  | none => .error .invalidSession
  | some session =>
    match w.users.find session.userID with
    | none => .error .invalidSession
    | some user =>
      if session.revokedAt = none ∧ user.enabled = true then
        .ok ⟨user.id, user.username, user.mustChangePassword, session.expiresAt, session.csrfHash,
          session.idHash⟩
      else .error .invalidSession

def World.touch (idHash : String) : World :=
  { w.tick with
    sessions := w.sessions.update idHash (fun s => { s with lastSeenAt := w.now }) fun _ => rfl }

/-- `UPDATE sessions SET revoked_at … AND revoked_at IS NULL` -/
def World.revokeWhere (now : Int) (p : SessionRow → Bool) : World :=
  { w with
    sessions := w.sessions.updateWhere (fun s => s.revokedAt = none && p s)
      (fun s => { s with revokedAt := some now }) fun _ => rfl }

section
variable (userID : String)

def World.setUser (f : UserRow → UserRow) (hf : ∀ u, (f u).id = u.id) : World :=
  { w with users := w.users.update userID f hf }

def readPasswordHash (w : World) : Except Fault String :=
  match w.users.find userID with
  | none => .error .invalidSession
  | some user => if user.enabled then .ok user.passwordHash else .error .invalidSession

def World.commitChange (userID sessionHash newHash : String) (now : Int) : World :=
  let v := w.setUser userID (fun u => { u with
    passwordHash := newHash, mustChangePassword := false, updatedAt := now }) fun _ => rfl
  (v.revokeWhere now fun s => s.userID = userID && s.idHash ≠ sessionHash).audit now
    (.passwordChanged userID true)

/-- the second half of `ChangePassword`: the hash is only replaced if it is still the one that was
verified -/
def replacePassword (userID sessionHash currentHash newHash : String) (w : World) :
    Except Fault Unit × World :=
  match w.users.find userID with
  | none => (.error .credentialsChanged, w.tick)
  | some user =>
    if user.passwordHash = currentHash ∧ user.enabled = true then
      (.ok (), w.tick.commitChange userID sessionHash newHash w.now)
    else (.error .credentialsChanged, w.tick)

def activeSessions (now : Int) : Nat :=
  (w.sessions.rows.filter fun s =>
    s.userID = userID && s.revokedAt = none && textAfter s.expiresAt now).length

def readUserForUpdate (now : Int) (w : World) : Except Fault (User × String) :=
  match w.users.find userID with
  | none => .error .notFound
  | some user =>
    match parseTime user.createdAt, parseTime user.updatedAt with
    | some createdAt, some updatedAt =>
      .ok (⟨user.id, user.username, user.enabled, user.mustChangePassword,
        activeSessions w userID now, createdAt, updatedAt⟩, user.passwordHash)
    | _, _ => .error (.wrapped "parse auth timestamp")

end

section
variable (actor : Principal)

def World.commitReset (userID username newHash : String) (now : Int) : World :=
  let v := w.setUser userID (fun u => { u with
    passwordHash := newHash, mustChangePassword := true, updatedAt := now }) fun _ => rfl
  (v.revokeWhere now fun s => s.userID = userID).audit now
    (.passwordReset actor.userID userID username true)

def resetPassword (userID newHash : String) (w : World) : Except Fault Unit × World :=
  match readUserForUpdate userID w.now w with
  | .error e => (.error e, w.tick)
  | .ok (current, _) =>
    (.ok (), w.tick.tick.commitReset actor userID current.username newHash w.tick.now)

def World.enabledUsers : Nat := (w.users.rows.filter UserRow.enabled).length

def World.nameTaken (userID username : String) : Bool :=
  w.users.rows.any fun u => u.id ≠ userID && sameName u.username username

def World.commitUpdate (userID username : String) (before enabled : Bool) (now : Int) : World :=
  let v := w.setUser userID (fun u => { u with
    username := username, enabled := enabled, updatedAt := now }) fun _ => rfl
  if before && !enabled then
    (v.revokeWhere now fun s => s.userID = userID).audit now
      (.userDisabled actor.userID userID username enabled)
  else if !before && enabled then
    v.audit now (.userEnabled actor.userID userID username enabled)
  else v.audit now (.userUpdated actor.userID userID username enabled)

def UpdateUserInput.wanted (input : UpdateUserInput) (current : User) :
    Except Fault (String × Bool) :=
  match input.username with
  | none => .ok (current.username, input.enabled.getD current.enabled)
  | some name =>
    match validateUsername name with
    | .error e => .error e
    | .ok username => .ok (username, input.enabled.getD current.enabled)

def updateUser (userID : String) (input : UpdateUserInput) (w : World) :
    Except Fault User × World :=
  match readUserForUpdate userID w.now w with
  | .error e => (.error e, w.tick)
  | .ok (current, _) =>
    match input.wanted current with
    | .error e => (.error e, w.tick)
    | .ok (username, enabled) =>
      if !enabled && current.enabled && userID = actor.userID then
        (.error .selfUserMutation, w.tick)
      else if !enabled && current.enabled && w.enabledUsers ≤ 1 then
        (.error .lastEnabledUser, w.tick)
      else if w.nameTaken userID username then (.error .usernameExists, w.tick.tick)
      else
        (.ok { current with
            username := username
            enabled := enabled
            updatedAt := w.tick.now
            activeSessions := if enabled then current.activeSessions else 0 },
          w.tick.tick.commitUpdate actor userID username current.enabled enabled w.tick.now)

def World.commitDelete (userID username : String) (now : Int) : World :=
  let v : World := { w with
    users := w.users.delete fun u => u.id = userID
    sessions := w.sessions.delete fun s => s.userID = userID }
  v.audit now (.userDeleted actor.userID userID username)

def deleteUser (userID : String) (w : World) : Except Fault Unit × World :=
  match readUserForUpdate userID w.now w with
  | .error e => (.error e, w.tick)
  | .ok (current, _) =>
    if current.enabled then (.error .userMustBeDisabled, w.tick)
    else (.ok (), w.tick.tick.commitDelete actor userID current.username w.tick.now)

end

def insertUser (row : UserRow) (event : EventType) (now : Int) : Option World :=
  if w.nameTaken row.id row.username then none
  else (w.users.insert row).map fun users => ({ w with users := users } : World).audit now event

end

def createUser (actor : Principal) (username passwordHash userID : String) (now : Int) (w : World) :
    Except Fault User × World :=
  let row : UserRow := ⟨userID, username, passwordHash, true, true, now, now⟩
  match insertUser w row (.userCreated actor.userID userID username) now with
  | none => (.error .usernameExists, w)
  | some v => (.ok ⟨userID, username, true, true, 0, now, now⟩, v)

def createBootstrapAdmin (passwordHash : String) (w : World) : Except Fault Bool × World :=
  if w.users.rows ≠ [] then (.ok false, w)
  else
    let row : UserRow := ⟨"admin", "admin", passwordHash, true, true, w.now, w.now⟩
    match insertUser w row (.bootstrapAdminCreated "admin" "admin") w.tick.now with
    | none => (.error (.wrapped "insert bootstrap admin"), w)
    | some v => (.ok true, v.tick.tick)

def sessionOwner (idHash : String) (w : World) : Option UserRow :=
  match w.sessions.find idHash with
  | none => none
  | some session => if session.revokedAt = none then w.users.find session.userID else none

def revoke (idHash : String) (w : World) : Except Fault Unit × World :=
  match sessionOwner idHash w with
  | none => (.error .notFound, w)
  | some user =>
    (.ok (), (w.tick.revokeWhere w.now fun s => s.idHash = idHash).audit w.now
      (.logout user.id user.username))

def revokeSession (actor : Principal) (sessionID : String) (w : World) :
    Except Fault Unit × World :=
  match sessionOwner sessionID w with
  | none => (.error .notFound, w)
  | some user =>
    (.ok (), (w.tick.revokeWhere w.now fun s => s.idHash = sessionID).audit w.now
      (.sessionRevoked actor.userID user.id user.username (sessionID = actor.sessionHash)))

/-! ## calls -/

inductive Op where
  | now
  | random
  | login (username password clientKey : String)
  | findSession (idHash : String)
  | touch (idHash : String)
  | readPasswordHash (userID : String)
  | replacePassword (userID sessionHash currentHash newHash : String)
  | resetPassword (actor : Principal) (userID newHash : String)
  | updateUser (actor : Principal) (userID : String) (input : UpdateUserInput)
  | deleteUser (actor : Principal) (userID : String)
  | createUser (actor : Principal) (username passwordHash userID : String) (now : Int)
  | createBootstrapAdmin (passwordHash : String)
  | revoke (idHash : String)
  | revokeSession (actor : Principal) (sessionID : String)

abbrev Op.Ret : Op → Type
  | .now => Int
  | .random => Except Fault String
  | .login .. => Except Fault Session
  | .findSession _ => Except Fault Principal
  | .touch _ => Except Fault Unit
  | .readPasswordHash _ => Except Fault String
  | .replacePassword .. => Except Fault Unit
  | .resetPassword .. => Except Fault Unit
  | .updateUser .. => Except Fault User
  | .deleteUser .. => Except Fault Unit
  | .createUser .. => Except Fault User
  | .createBootstrapAdmin _ => Except Fault Bool
  | .revoke _ => Except Fault Unit
  | .revokeSession .. => Except Fault Unit

def flagDeed (userID : String) : Bool → Bool → Option Deed
  | true, false => some (.disabled userID)
  | false, true => some (.enabled userID)
  | _, _ => none

/-- the deed that a request and its answer stand for, given the rows of before -/
def Op.deed (w : World) : (o : Op) → o.Ret → Option Deed
  | .login _ password _, .ok session => (w.users.find session.userID).map fun user =>
    .opened session.id session.userID password user.passwordHash
  | .replacePassword userID sessionHash _ _, .ok _ => some (.changed userID sessionHash)
  | .resetPassword _ userID _, .ok _ => some (.reset userID)
  | .updateUser _ userID _, .ok user =>
    flagDeed userID ((w.users.find userID).any UserRow.enabled) user.enabled
  | .deleteUser _ userID, .ok _ => some (.deleted userID)
  | .revoke idHash, .ok _ => some (.revoked idHash)
  | .revokeSession _ sessionID, .ok _ => some (.revoked sessionID)
  | _, _ => none

def credit (o : Op) (w : World) (r : o.Ret × World) : o.Ret × World :=
  (r.1, (o.deed w r.1).elim r.2 r.2.record)

/-- a transaction takes place, fails, or is committed without an acknowledgement -/
def exec (s : Service) : (o : Op) → Fate → World → o.Ret × World
  | .now, _, w => (w.now, w.tick)
  | .random, f, w => f.deliver (.wrapped "generate secure token") (.ok w.drawn, w.draw) w
  | .login username password clientKey, f, w =>
    f.deliver storage
      (credit (.login username password clientKey) w (login s username password clientKey w)) w
  | .findSession idHash, f, w => f.deliver storage (findSession idHash w, w) w
  | .touch idHash, f, w => f.deliver storage (.ok (), w.touch idHash) w
  | .readPasswordHash userID, f, w => f.deliver storage (readPasswordHash userID w, w) w
  | .replacePassword userID sessionHash currentHash newHash, f, w =>
    f.deliver storage (credit (.replacePassword userID sessionHash currentHash newHash) w
      (replacePassword userID sessionHash currentHash newHash w)) w
  | .resetPassword actor userID newHash, f, w =>
    f.deliver storage
      (credit (.resetPassword actor userID newHash) w (resetPassword actor userID newHash w)) w
  | .updateUser actor userID input, f, w =>
    f.deliver storage
      (credit (.updateUser actor userID input) w (updateUser actor userID input w)) w
  | .deleteUser actor userID, f, w =>
    f.deliver storage (credit (.deleteUser actor userID) w (deleteUser actor userID w)) w
  | .createUser actor username passwordHash userID now, f, w =>
    f.deliver storage (createUser actor username passwordHash userID now w) w
  | .createBootstrapAdmin passwordHash, f, w =>
    f.deliver storage (createBootstrapAdmin passwordHash w) w
  | .revoke idHash, f, w => f.deliver storage (credit (.revoke idHash) w (revoke idHash w)) w
  | .revokeSession actor sessionID, f, w =>
    f.deliver storage
      (credit (.revokeSession actor sessionID) w (revokeSession actor sessionID w)) w

/-! ## operations -/

abbrev Act (α : Type) := Proc Op Op.Ret (Except Fault α)

namespace Service

variable (s : Service)

def hashPassword (password : String) : Act String :=
  match s.refusesPassword password with
  | some e => .done (.error e)
  | none => .call .random fun
    | .error e => .done (.error e)
    | .ok salt => .done (.ok (s.hashWith password salt))

def login (username password clientKey : String) : Act Session :=
  let username := trimSpace username
  if username = "" || byteLength username > 128 || password = "" || byteLength password > 1024 then
    .done (.error .invalidCredentials)
  else .call (.login username password clientKey) .done

def authenticate (token : String) : Act Principal :=
  if token = "" then .done (.error .invalidSession)
  else .call (.findSession (s.lib.digestHex token)) fun
    | .error e => .done (.error e)
    | .ok principal =>
      match parseTime principal.expiresAt with
      | none => .done (.error .invalidSession)
      | some expires => .call .now fun (now : Int) =>
        if expires > now then
          -- whether the last use could be stored does not matter
          .call (.touch principal.sessionHash) fun _ => .done (.ok principal)
        else .done (.error .invalidSession)

def changePassword (principal : Principal) (currentPassword newPassword : String) : Act Unit :=
  if principal.userID = "" || principal.sessionHash = "" then .done (.error .invalidSession)
  else .call (.readPasswordHash principal.userID) fun
    | .error e => .done (.error e)
    | .ok currentHash =>
      match verifyPassword s.lib currentPassword currentHash with
      | .error e => .done (.error e)
      | .ok false => .done (.error .invalidCredentials)
      | .ok true =>
        match verifyPassword s.lib newPassword currentHash with
        | .error e => .done (.error e)
        | .ok true => .done (.error .passwordUnchanged)
        | .ok false => (s.hashPassword newPassword).attempt (fun e => .done (.error e))
          fun newHash => .call
            (.replacePassword principal.userID principal.sessionHash currentHash newHash) .done

section
variable (actor : Principal)

def resetPassword (userID newPassword : String) : Act Unit :=
  if actor.userID = "" then .done (.error (.wrapped "authenticated auth database is required"))
  else if userID = actor.userID then .done (.error .selfPasswordReset)
  else (s.hashPassword newPassword).attempt (fun e => .done (.error e))
    fun newHash => .call (.resetPassword actor userID newHash) .done

def updateUser (userID : String) (input : UpdateUserInput) : Act User :=
  if actor.userID = "" then .done (.error (.wrapped "authenticated auth database is required"))
  else if input.username = none && input.enabled = none then .done (.error .noUserChanges)
  else .call (.updateUser actor userID input) .done

def deleteUser (userID : String) : Act Unit :=
  if actor.userID = "" then .done (.error (.wrapped "authenticated auth database is required"))
  else if userID = actor.userID then .done (.error .selfUserMutation)
  else .call (.deleteUser actor userID) .done

def createUser (username password : String) : Act User :=
  if actor.userID = "" then .done (.error (.wrapped "authenticated auth database is required"))
  else
    match validateUsername username with
    | .error e => .done (.error e)
    | .ok username => (s.hashPassword password).attempt (fun e => .done (.error e)) fun hash =>
      .call .random fun
        | .error e => .done (.error e)
        | .ok randomID => .call .now fun now =>
          .call (.createUser actor username hash ("user-" ++ randomID) now) .done

def createBootstrapAdmin (password : String) : Act Bool :=
  (s.hashPassword password).attempt (fun e => .done (.error e))
    fun hash => .call (.createBootstrapAdmin hash) .done

def revoke (token : String) : Act Unit :=
  if token = "" then .done (.error .notFound)
  else .call (.revoke (s.lib.digestHex token)) .done

def sha256HexLength : Nat := 64

def validateSessionID (value : String) : Bool :=
  value.toList.length = sha256HexLength && value.toList.all isLowerHex

def revokeSession (sessionID : String) : Act Unit :=
  if actor.userID = "" then .done (.error (.wrapped "authenticated auth database is required"))
  else if validateSessionID sessionID then .call (.revokeSession actor sessionID) .done
  else .done (.error .invalidSessionID)

end

end Service

/-! ## requests -/

inductive Request where
  | createBootstrapAdmin (password : String)
  | createUser (actor : Principal) (username password : String)
  | login (username password clientKey : String)
  | authenticate (token : String)
  | changePassword (principal : Principal) (currentPassword newPassword : String)
  | resetPassword (actor : Principal) (userID newPassword : String)
  | updateUser (actor : Principal) (userID : String) (input : UpdateUserInput)
  | deleteUser (actor : Principal) (userID : String)
  | revoke (token : String)
  | revokeSession (actor : Principal) (sessionID : String)

inductive Reply where
  | done
  | created (admin : Bool)
  | session (session : Session)
  | principal (principal : Principal)
  | user (user : User)

def reply {α : Type} (r : α → Reply) (p : Act α) : Act Reply :=
  p.bind fun a => .done (a.map r)

def proc (s : Service) : Request → Act Reply
  | .createBootstrapAdmin password => reply .created (s.createBootstrapAdmin password)
  | .createUser actor username password => reply .user (s.createUser actor username password)
  | .login username password clientKey => reply .session (Service.login username password clientKey)
  | .authenticate token => reply .principal (s.authenticate token)
  | .changePassword principal currentPassword newPassword =>
    reply (fun _ => .done) (s.changePassword principal currentPassword newPassword)
  | .resetPassword actor userID newPassword =>
    reply (fun _ => .done) (s.resetPassword actor userID newPassword)
  | .updateUser actor userID input => reply .user (Service.updateUser actor userID input)
  | .deleteUser actor userID => reply (fun _ => .done) (Service.deleteUser actor userID)
  | .revoke token => reply (fun _ => .done) (s.revoke token)
  | .revokeSession actor sessionID => reply (fun _ => .done) (Service.revokeSession actor sessionID)

end GatewayVpn.Auth

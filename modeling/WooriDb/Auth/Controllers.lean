import WooriDb.Uuid
import WooriDb.Chrono
import WooriDb.Query.Store

/-!
# The auth controllers of `auth/controllers.rs`

`create_user_controller` (`controllers.rs:46-84`), `delete_users_controller`
(`controllers.rs:108-138`) and `put_user_session_controller` (`controllers.rs:150-193`), each a
function of the request body and of the part of the auth state it reads and writes: the users
log, and the session table behind its lock.

The body schemas, `AdminInfo`, `models::User` and `auth::io` are not in src/. The RON decoders,
the admin check, bcrypt and the three users-log operations are the fields of `AuthLib`, and
every theorem holds for all of them. What one request draws from outside the program (fresh
uuids, bcrypt's salt, `Utc::now()`) is its `World`.

`put_user_session_controller` computes the expiry instant while it holds the session guard:
`Duration::seconds` panics for a time to live past `Duration::MAX`, and `DateTime + Duration`
panics past chrono's last instant, and either panic poisons the session lock.
-/

namespace WooriDb.Auth

/-- `schemas::UserInfo`. -/
structure UserInfo (Role : Type) where
  userPassword : String
  role : List Role

/-- `schemas::CreateUserWithAdmin`. -/
structure CreateUserWithAdmin (Role : Type) where
  adminId : String
  adminPassword : String
  userInfo : UserInfo Role

/-- `schemas::DeleteUsersWithAdmin`. -/
structure DeleteUsersWithAdmin where
  adminId : String
  adminPassword : String
  usersIds : List Uuid

/-- `schemas::User`, the body of `put_user_session`. -/
structure Schemas.User where
  id : Uuid
  userPassword : String

/-- `models::User`, a users-log record (its creation date left out). -/
structure User (Role : Type) where
  id : Uuid
  hash : String
  roles : List Role

/-- `User::context`: the stored hash and the roles. -/
def User.context {Role : Type} (u : User Role) : String × List Role := (u.hash, u.roles)

/-- `models::AdminInfo`: the admin check and the bcrypt cost configured at startup. -/
structure AdminInfo where
  isValidHash : String → String → Bool
  cost : Nat

/-- `repository::local::SessionInfo`. -/
structure SessionInfo (Role : Type) where
  expiration : DateTimeUtc
  roles : List Role

/-- `SessionContext`, a `HashMap<String, SessionInfo>`. -/
abbrev SessionContext (Role : Type) := HashMap String (SessionInfo Role)

/-- The parts of the auth layer that are not in src/: the RON decoders of the three bodies
    (each error as its `to_string`), the admin data, bcrypt, the `auth::io` operations on a
    users log `Log`, and the session time to live the server is configured with. -/
structure AuthLib (Role Log : Type) where
  createUserWithAdmin : String → Except String (CreateUserWithAdmin Role)
  deleteUsersWithAdmin : String → Except String DeleteUsersWithAdmin
  user : String → Except String Schemas.User
  admin : AdminInfo
  bcrypt : Bcrypt
  toUsersLog : User Role → Log → Except Error Log
  removeUsersFromLog : List Uuid → Log → Except Error Log
  findUser : Schemas.User → Log → Except Error (User Role)
  expirationTime : I64

/-- What one request draws from outside the program: the `Uuid::new_v4()` values in the order
    the controller draws them, bcrypt's random salt, and `Utc::now()`. -/
structure World where
  newUuid : Uuid
  fallbackUuid : Uuid
  salt : Nat
  now : DateTimeUtc

variable {Role Log : Type} (lib : AuthLib Role Log) (w : World)

/-! ## The admin endpoints -/

/-- What `create_user_controller` and `delete_users_controller` share
    (`controllers.rs:61-83`, `123-137`): decode the body, check the admin credentials, then
    run the endpoint's own action on the users log. -/
def adminController {Cred α : Type} (decode : String → Except String Cred)
    (adminId adminPassword : Cred → String) (action : Cred → Log → Except Error α × Log)
    (body : String) (log : Log) : Except Error α × Log :=
  match decode body with
  | .error e => (.error (.authenticationBadRequestBody e), log)
  | .ok cred =>
    if lib.admin.isValidHash (adminPassword cred) (adminId cred) then action cred log
    else (.error .authenticationBadRequest, log)

/-- The action of `create_user_controller` (`controllers.rs:63-75`): hash the password at the
    admin's cost and append the new record. -/
def createUser (cred : CreateUserWithAdmin Role) (log : Log) : Except Error Uuid × Log :=
  match lib.bcrypt.hash cred.userInfo.userPassword lib.admin.cost w.salt with
  | .ok newUserHash =>
    match lib.toUsersLog ⟨w.newUuid, newUserHash, cred.userInfo.role⟩ log with
    | .ok log' => (.ok w.newUuid, log')
    | .error _ => (.error .failedToCreateUser, log)
  | .error _ => (.error .failedToCreateUser, log)

/-- The action of `delete_users_controller` (`controllers.rs:125-129`). -/
def deleteUsers (cred : DeleteUsersWithAdmin) (log : Log) : Except Error (List Uuid) × Log :=
  match lib.removeUsersFromLog cred.usersIds log with
  | .ok log' => (.ok cred.usersIds, log')
  | .error _ => (.error .failedToDeleteUsers, log)

/-- `create_user_controller`. -/
def createUserController (body : String) (log : Log) : Except Error Uuid × Log :=
  adminController lib lib.createUserWithAdmin (·.adminId) (·.adminPassword) (createUser lib w)
    body log

/-- `delete_users_controller`. -/
def deleteUsersController (body : String) (log : Log) : Except Error (List Uuid) × Log :=
  adminController lib lib.deleteUsersWithAdmin (·.adminId) (·.adminPassword) (deleteUsers lib)
    body log

/-- An admin endpoint changes the log only through its action, on a body that decodes and
    passes the admin check. -/
theorem adminController_cases {Cred α : Type} {decode : String → Except String Cred}
    {adminId adminPassword : Cred → String} {action : Cred → Log → Except Error α × Log}
    {body : String} {log : Log} :
    (adminController lib decode adminId adminPassword action body log).2 = log ∨
      ∃ cred, decode body = .ok cred ∧
        lib.admin.isValidHash (adminPassword cred) (adminId cred) = true ∧
        adminController lib decode adminId adminPassword action body log = action cred log := by
  unfold adminController
  cases decode body with
  | error => exact .inl rfl
  | ok cred =>
    by_cases valid : lib.admin.isValidHash (adminPassword cred) (adminId cred) = true
    · exact .inr ⟨cred, rfl, valid, if_pos valid⟩
    · exact .inl (by simp [valid])

/-- `create_user`'s action leaves the log alone, or appends through `to_users_log` the record of
    the fresh uuid, bcrypt's hash of the password, and the requested roles. -/
theorem createUser_cases (cred : CreateUserWithAdmin Role) (log : Log) :
    (createUser lib w cred log).2 = log ∨
      ∃ h, lib.bcrypt.hash cred.userInfo.userPassword lib.admin.cost w.salt = .ok h ∧
        lib.toUsersLog ⟨w.newUuid, h, cred.userInfo.role⟩ log =
          .ok (createUser lib w cred log).2 := by
  unfold createUser
  split
  · split
    · exact .inr ⟨_, ‹_›, ‹_›⟩
    · exact .inl rfl
  · exact .inl rfl

theorem deleteUsers_cases (cred : DeleteUsersWithAdmin) (log : Log) :
    (deleteUsers lib cred log).2 = log ∨
      lib.removeUsersFromLog cred.usersIds log = .ok (deleteUsers lib cred log).2 := by
  unfold deleteUsers
  cases h : lib.removeUsersFromLog cred.usersIds log with
  | error => exact .inl rfl
  | ok log' => exact .inr rfl

/-! ## `put_user_session_controller` -/

/-- The session token (`controllers.rs:175-176`): bcrypt's hash of a fresh uuid at cost 4, or
    a second fresh uuid when hashing fails. -/
def sessionToken : String :=
  match lib.bcrypt.hash (Uuid.encodeLower w.newUuid) 4 w.salt with
  | .ok token => token
  | .error _ => Uuid.encodeLower w.fallbackUuid

/-- The expiry instant, `Utc::now() + chrono::Duration::seconds(exp_time)`
    (`controllers.rs:177`). -/
def expiration : Exit Empty DateTimeUtc :=
  Duration.seconds lib.expirationTime >>= fun d => w.now.add d

/-- The rest of `put_user_session_controller` once `io::find_user(..).await` has returned
    `found` (`controllers.rs:169-192`). A panic while the session guard is held poisons the
    lock. -/
def resumeSession (user : Schemas.User) (found : Except Error (User Role))
    (session : Mutex (SessionContext Role)) : Exit Error String × Mutex (SessionContext Role) :=
  match found with
  | .error _ => (.err .unknown, session)
  | .ok reg =>
    match lib.bcrypt.verify user.userPassword reg.context.1 with
    | .ok true =>
      match session.lock with
      | none => (.err .unknown, session)
      | some ctx =>
        match expiration lib w with
        | .ok exp =>
          (.ok (sessionToken lib w),
            ⟨ctx.insert (sessionToken lib w) ⟨exp, reg.context.2⟩, false⟩)
        | .err e => e.elim
        | .panic msg => (.panic msg, session.poison)
    | _ => (.err .unknown, session)

/-- `put_user_session_controller` (`controllers.rs:150-193`): decode the body, then
    `find_user` on the users log and the rest. -/
def putUserSessionController (body : String) (log : Log) (session : Mutex (SessionContext Role)) :
    Exit Error String × Mutex (SessionContext Role) :=
  match lib.user body with
  | .error _ => (.err (.authenticationBadRequestBody Error.unknownMessage), session)
  | .ok user => resumeSession lib w user (lib.findUser user log) session

/-- The expiry instant: `Duration::seconds` panics outside `MIN..=MAX`, then the addition. -/
theorem expiration_eq : expiration lib w =
    if -9223372036854776 < lib.expirationTime.val ∧ lib.expirationTime.val ≤ 9223372036854775
    then w.now.add ⟨lib.expirationTime.val, 0, by decide⟩
    else .panic Duration.secondsOutOfBounds := by
  unfold expiration
  rw [Duration.seconds_eq]
  split <;> rfl

/-- The expiry instant is `now + exp_time` whenever it is computed, and the call panics
    when the time to live is past `Duration::MAX` (or below `MIN`) or the sum past chrono's
    range. -/
theorem expiration_cases :
    (∀ exp, expiration lib w = .ok exp →
      exp.secs = w.now.secs + lib.expirationTime.val ∧ exp.nanos = w.now.nanos) ∧
    (¬(-9223372036854776 < lib.expirationTime.val ∧
        lib.expirationTime.val ≤ 9223372036854775) →
      expiration lib w = .panic Duration.secondsOutOfBounds) ∧
    (-9223372036854776 < lib.expirationTime.val → lib.expirationTime.val ≤ 9223372036854775 →
      (minUtcSecs ≤ w.now.secs + lib.expirationTime.val ∧
        w.now.secs + lib.expirationTime.val ≤ maxUtcSecs) ∨
      expiration lib w = .panic addOverflowed) := by
  rw [expiration_eq, DateTimeUtc.add_seconds]
  refine ⟨fun exp h => ?_, fun h => if_neg h, fun h₁ h₂ => ?_⟩
  · split at h
    · split at h
      · cases h; exact ⟨rfl, rfl⟩
      · cases h
    · cases h
  · rw [if_pos ⟨h₁, h₂⟩]
    split
    · exact .inl ‹_›
    · exact .inr rfl

/-- What the rest of a `put_user_session` call can do to the session lock: leave it alone
    with an `Err`, or, once `find_user` found a record whose hash `bcrypt::verify` accepts and
    with the lock free, either insert the token with the expiry and the record's roles, or
    panic computing the expiry and poison the lock. -/
theorem resumeSession_cases (user : Schemas.User) (found : Except Error (User Role))
    (session : Mutex (SessionContext Role)) :
    ((∃ e, (resumeSession lib w user found session).1 = .err e) ∧
      (resumeSession lib w user found session).2 = session) ∨
    ∃ reg, found = .ok reg ∧ lib.bcrypt.verify user.userPassword reg.hash = .ok true ∧
      session.poisoned = false ∧
      ((∃ exp, expiration lib w = .ok exp ∧
        resumeSession lib w user found session =
          (.ok (sessionToken lib w),
            ⟨session.data.insert (sessionToken lib w) ⟨exp, reg.roles⟩, false⟩)) ∨
       (∃ msg, expiration lib w = .panic msg ∧
        resumeSession lib w user found session = (.panic msg, session.poison))) := by
  unfold resumeSession
  split
  · exact .inl ⟨⟨_, rfl⟩, rfl⟩
  · rename_i reg
    split
    · rename_i verified
      split
      · exact .inl ⟨⟨_, rfl⟩, rfl⟩
      · rename_i ctx free
        obtain ⟨unpoisoned, rfl⟩ := Mutex.lock_eq_some.1 free
        refine .inr ⟨reg, rfl, verified, unpoisoned, ?_⟩
        split
        · exact .inl ⟨_, ‹_›, rfl⟩
        · exact (‹Empty›).elim
        · exact .inr ⟨_, ‹_›, rfl⟩
    · exact .inl ⟨⟨_, rfl⟩, rfl⟩

/-- What a `put_user_session` call can do to the session lock: leave it alone with an `Err`,
    or, once the body decodes, `find_user` returns a record and `bcrypt::verify` accepts the
    password against its hash with the lock free, either insert the token it returns with the
    expiry and the record's roles, or panic computing the expiry and poison the lock. -/
theorem putUserSession_cases (body : String) (log : Log) (session : Mutex (SessionContext Role)) :
    ((∃ e, (putUserSessionController lib w body log session).1 = .err e) ∧
      (putUserSessionController lib w body log session).2 = session) ∨
    ∃ user reg, lib.user body = .ok user ∧ lib.findUser user log = .ok reg ∧
      lib.bcrypt.verify user.userPassword reg.hash = .ok true ∧ session.poisoned = false ∧
      ((∃ exp, expiration lib w = .ok exp ∧
        putUserSessionController lib w body log session =
          (.ok (sessionToken lib w),
            ⟨session.data.insert (sessionToken lib w) ⟨exp, reg.roles⟩, false⟩)) ∨
       (∃ msg, expiration lib w = .panic msg ∧
        putUserSessionController lib w body log session = (.panic msg, session.poison))) := by
  unfold putUserSessionController
  cases parses : lib.user body with
  | error => exact .inl ⟨⟨_, rfl⟩, rfl⟩
  | ok user =>
    rcases resumeSession_cases lib w user (lib.findUser user log) session with
      same | ⟨reg, found, verified, free, outcome⟩
    · exact .inl same
    · exact .inr ⟨user, reg, rfl, found, verified, free, outcome⟩

/-- A verified `put_user_session` call on a free lock panics, and poisons the lock, whenever
    the configured time to live is past `Duration::MAX` seconds (`i64::MAX` among them), or is
    within it and puts the expiry past chrono's last instant. -/
theorem putUserSession_overflow_panics (body : String) (log : Log) (ctx : SessionContext Role)
    (user : Schemas.User) (reg : User Role)
    (parses : lib.user body = .ok user) (found : lib.findUser user log = .ok reg)
    (verified : lib.bcrypt.verify user.userPassword reg.hash = .ok true) :
    (9223372036854775 < lib.expirationTime.val →
      putUserSessionController lib w body log ⟨ctx, false⟩ =
        (.panic Duration.secondsOutOfBounds, ⟨ctx, true⟩)) ∧
    (lib.expirationTime.val ≤ 9223372036854775 →
      maxUtcSecs < w.now.secs + lib.expirationTime.val →
      putUserSessionController lib w body log ⟨ctx, false⟩ =
        (.panic addOverflowed, ⟨ctx, true⟩)) := by
  obtain ⟨-, hmax, hrange⟩ := expiration_cases lib w
  have hcall : ∀ msg, expiration lib w = .panic msg →
      putUserSessionController lib w body log ⟨ctx, false⟩ = (.panic msg, ⟨ctx, true⟩) := by
    intro msg h
    simp [putUserSessionController, resumeSession, parses, found, User.context, verified,
      Mutex.lock, h, Mutex.poison]
  refine ⟨fun big => hcall _ (hmax (by omega)), fun fits past => hcall _ ?_⟩
  have hmin : -9223372036854776 < lib.expirationTime.val := by
    have := w.now.le_max
    omega
  exact (hrange hmin fits).resolve_left (by omega)

/-- An auth layer whose decoders, `find_user` and `bcrypt::verify` accept every request, with
    the time to live `i64::MAX`. -/
def acceptingLib : AuthLib Unit Unit where
  createUserWithAdmin _ := .error ""
  deleteUsersWithAdmin _ := .error ""
  user _ := .ok ⟨Uuid.nil, "password"⟩
  admin := ⟨fun _ _ => false, Bcrypt.defaultCost⟩
  bcrypt := ⟨fun _ _ _ => .error "", fun _ _ => .ok true⟩
  toUsersLog _ _ := .error .failedToCreateUser
  removeUsersFromLog _ _ := .error .failedToDeleteUsers
  findUser _ _ := .ok ⟨Uuid.nil, "hash", []⟩
  expirationTime := I64.max

/-- The Unix epoch, with nil fresh uuids and salt. -/
def epochWorld : World := ⟨Uuid.nil, Uuid.nil, 0, ⟨0, 0, by decide, by decide, by decide⟩⟩

theorem putUserSession_panics_at_max :
    acceptingLib.expirationTime = I64.max ∧
      putUserSessionController acceptingLib epochWorld "" () ⟨.empty, false⟩ =
        (.panic Duration.secondsOutOfBounds, ⟨.empty, true⟩) :=
  ⟨rfl, (putUserSession_overflow_panics acceptingLib epochWorld "" () .empty _ _ rfl rfl rfl).1
    (by decide)⟩

end WooriDb.Auth

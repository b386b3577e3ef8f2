import WooriDb.Auth.Controllers

/-!
# Runs of the auth layer

The auth state is the users log and the session table behind its lock. A request is one of
the three controllers of `auth/controllers.rs` on a body; a run is any sequence of requests,
each with its own `World`. `step_gated` says what one request can do to the state, and
`transitions_gated` carries it to every transition of every run. The last section follows a
whole run from `step_sessions_cases`: every session of the final table was there at the start
or is a token the run handed out, no session is ever removed, and a poisoned session lock
stays poisoned, with the table frozen and no token handed out again.
-/

namespace WooriDb.Auth

/-- The state the auth controllers share: the users log behind `auth::io`, and the
    `SessionContext` behind its `Mutex`. -/
structure AuthState (Role Log : Type) where
  usersLog : Log
  sessions : Mutex (SessionContext Role)

/-- A request to one of the three controllers, with its body. -/
inductive Call where
  | createUser (body : String)
  | deleteUsers (body : String)
  | putUserSession (body : String)

/-- The `Ok` answers of the three controllers. -/
inductive Response where
  | userId (id : Uuid)
  | usersIds (ids : List Uuid)
  | token (token : String)

variable {Role Log : Type} (lib : AuthLib Role Log)

/-- One request against the auth state. -/
def step (s : AuthState Role Log) (w : World) : Call → Exit Error Response × AuthState Role Log
  | .createUser body =>
    let (r, log) := createUserController lib w body s.usersLog
    (Exit.ofExcept (r.map .userId), { s with usersLog := log })
  | .deleteUsers body =>
    let (r, log) := deleteUsersController lib body s.usersLog
    (Exit.ofExcept (r.map .usersIds), { s with usersLog := log })
  | .putUserSession body =>
    let (r, sessions) := putUserSessionController lib w body s.usersLog s.sessions
    (Response.token <$> r, { s with sessions := sessions })

/-- A transition of a run: the state before, the request and its world, the answer, and the
    state after. -/
structure Transition (Role Log : Type) where
  pre : AuthState Role Log
  call : Call
  world : World
  answer : Exit Error Response
  post : AuthState Role Log

/-- The transitions of the run of `requests` from `s`, in order. -/
def transitions (s : AuthState Role Log) : List (Call × World) → List (Transition Role Log)
  | [] => []
  | (c, w) :: requests =>
    ⟨s, c, w, (step lib s w c).1, (step lib s w c).2⟩ :: transitions (step lib s w c).2 requests

/-- The state a run of `requests` from `s` ends in. -/
def run (s : AuthState Role Log) : List (Call × World) → AuthState Role Log
  | [] => s
  | (c, w) :: requests => run (step lib s w c).2 requests

/-- The gates of the auth state, on one transition. The users log changes only through an
    admitted `create_user` (appending the record of bcrypt's hash of the password) or
    `delete_users`; the session table changes only through a `put_user_session` answered with a
    token, and every such answer comes from a decoded body, a record `find_user` returned and a
    password `bcrypt::verify` accepted against its hash, and inserts that token with the expiry
    `now + exp_time` and the record's roles; an `Err` answer, and every admin request, leaves the
    session lock alone. The lock is poisoned only by a `put_user_session` past the same checks
    whose expiry computation panicked, with that panic as its answer. -/
def Gated (t : Transition Role Log) : Prop :=
  (t.post.usersLog ≠ t.pre.usersLog →
    (∃ body cred h, t.call = .createUser body ∧ lib.createUserWithAdmin body = .ok cred ∧
      lib.admin.isValidHash cred.adminPassword cred.adminId = true ∧
      lib.bcrypt.hash cred.userInfo.userPassword lib.admin.cost t.world.salt = .ok h ∧
      lib.toUsersLog ⟨t.world.newUuid, h, cred.userInfo.role⟩ t.pre.usersLog =
        .ok t.post.usersLog) ∨
    (∃ body cred, t.call = .deleteUsers body ∧ lib.deleteUsersWithAdmin body = .ok cred ∧
      lib.admin.isValidHash cred.adminPassword cred.adminId = true ∧
      lib.removeUsersFromLog cred.usersIds t.pre.usersLog = .ok t.post.usersLog)) ∧
  (t.post.sessions.data ≠ t.pre.sessions.data → ∃ token, t.answer = .ok (.token token)) ∧
  (∀ token, t.answer = .ok (.token token) →
    ∃ body user reg exp, t.call = .putUserSession body ∧ lib.user body = .ok user ∧
      lib.findUser user t.pre.usersLog = .ok reg ∧
      lib.bcrypt.verify user.userPassword reg.hash = .ok true ∧
      exp.secs = t.world.now.secs + lib.expirationTime.val ∧ exp.nanos = t.world.now.nanos ∧
      t.post.sessions = ⟨t.pre.sessions.data.insert token ⟨exp, reg.roles⟩, false⟩) ∧
  ((∃ e, t.answer = .err e) → t.post.sessions = t.pre.sessions) ∧
  (∀ body, t.call = .createUser body ∨ t.call = .deleteUsers body →
    t.post.sessions = t.pre.sessions) ∧
  (t.post.sessions.poisoned ≠ t.pre.sessions.poisoned →
    ∃ body user reg msg, t.call = .putUserSession body ∧ lib.user body = .ok user ∧
      lib.findUser user t.pre.usersLog = .ok reg ∧
      lib.bcrypt.verify user.userPassword reg.hash = .ok true ∧
      expiration lib t.world = .panic msg ∧ t.answer = .panic msg ∧
      t.post.sessions = t.pre.sessions.poison)

/-- An answer of an admin request is never a session token. -/
theorem ofExcept_map_ne_token {α : Type} (r : Except Error α) (f : α → Response)
    (hf : ∀ a token, f a ≠ .token token) (token : String) :
    Exit.ofExcept (r.map f) ≠ .ok (.token token) := by
  cases r with
  | error => simp [Except.map]
  | ok a => simpa [Except.map] using hf a token

/-- Every request keeps to the gates. -/
theorem step_gated (s : AuthState Role Log) (w : World) (c : Call) :
    Gated lib ⟨s, c, w, (step lib s w c).1, (step lib s w c).2⟩ := by
  cases c with
  | createUser body =>
    refine ⟨fun changed => .inl ?_, fun same => (same rfl).elim,
      fun token h => (ofExcept_map_ne_token _ _ (fun _ _ => Response.noConfusion) _ h).elim,
      fun _ => rfl, fun _ _ => rfl, fun same => (same rfl).elim⟩
    rcases adminController_cases lib with same | ⟨cred, decoded, admitted, eq⟩
    · exact (changed same).elim
    · rcases createUser_cases lib w cred s.usersLog with same | ⟨h, hashed, appended⟩
      · exact (changed (by simp only [step, createUserController, eq, same])).elim
      · exact ⟨body, cred, h, rfl, decoded, admitted, hashed, by
          simpa only [step, createUserController, eq] using appended⟩
  | deleteUsers body =>
    refine ⟨fun changed => .inr ?_, fun same => (same rfl).elim,
      fun token h => (ofExcept_map_ne_token _ _ (fun _ _ => Response.noConfusion) _ h).elim,
      fun _ => rfl, fun _ _ => rfl, fun same => (same rfl).elim⟩
    rcases adminController_cases lib with same | ⟨cred, decoded, admitted, eq⟩
    · exact (changed same).elim
    · rcases deleteUsers_cases lib cred s.usersLog with same | removed
      · exact (changed (by simp only [step, deleteUsersController, eq, same])).elim
      · exact ⟨body, cred, rfl, decoded, admitted, by
          simpa only [step, deleteUsersController, eq] using removed⟩
  | putUserSession body =>
    have answer : (step lib s w (.putUserSession body)).1 =
        Response.token <$> (putUserSessionController lib w body s.usersLog s.sessions).1 := rfl
    have post : (step lib s w (.putUserSession body)).2 =
        { s with sessions := (putUserSessionController lib w body s.usersLog s.sessions).2 } := rfl
    refine ⟨fun changed => (changed rfl).elim, ?_⟩
    rw [answer, post]
    rcases putUserSession_cases lib w body s.usersLog s.sessions with
      ⟨⟨e, answered⟩, same⟩ |
      ⟨user, reg, parses, found, verified, free, ⟨exp, computed, eq⟩ | ⟨msg, panicked, eq⟩⟩
    · rw [answered, same]
      refine ⟨fun changed => (changed rfl).elim, fun _ h => ?_, fun _ => rfl, fun _ _ => rfl,
        fun changed => (changed rfl).elim⟩
      cases h
    · obtain ⟨hsecs, hnanos⟩ := (expiration_cases lib w).1 exp computed
      rw [eq]
      refine ⟨fun _ => ⟨_, rfl⟩, fun token h => ?_, fun h => ?_, fun _ h => ?_,
        fun changed => (changed free.symm).elim⟩
      · cases h
        exact ⟨body, user, reg, exp, rfl, parses, found, verified, hsecs, hnanos, rfl⟩
      · obtain ⟨_, h⟩ := h; cases h
      · rcases h with h | h <;> cases h
    · rw [eq]
      refine ⟨fun changed => (changed rfl).elim, fun _ h => ?_, fun h => ?_, fun _ h => ?_,
        fun _ => ⟨body, user, reg, msg, rfl, parses, found, verified, panicked, rfl, rfl⟩⟩
      · cases h
      · obtain ⟨_, h⟩ := h; cases h
      · rcases h with h | h <;> cases h

/-- Over any run, in any order and with any bodies, every transition keeps to the gates. -/
theorem transitions_gated (s : AuthState Role Log) (requests : List (Call × World)) :
    ∀ t ∈ transitions lib s requests, Gated lib t := by
  induction requests generalizing s with
  | nil => simp [transitions]
  | cons r requests ih =>
    obtain ⟨c, w⟩ := r
    simp only [transitions, List.mem_cons, forall_eq_or_imp]
    exact ⟨step_gated lib s w c, ih _⟩

/-- An auth layer that issues every session: every password verifies, the token hash is
    `"token"`, and sessions live an hour. -/
def sessionLib : AuthLib Unit Unit :=
  { acceptingLib with
    bcrypt := ⟨fun _ _ _ => .ok "token", fun _ _ => .ok true⟩
    expirationTime := I64.ofInt 3600 }

/-- An empty users log and a free, empty session table. -/
def initialAuth : AuthState Unit Unit := ⟨(), ⟨.empty, false⟩⟩

theorem transitions_gated_session :
    ∃ t, (transitions sessionLib initialAuth [(.putUserSession "", epochWorld)]).head? =
        some t ∧
      Gated sessionLib t :=
  ⟨_, rfl, transitions_gated sessionLib initialAuth [(.putUserSession "", epochWorld)] _
    (List.Mem.head _)⟩

/-! ## Whole runs -/

/-- What one request can do to the session lock: leave it alone, or, with the lock free,
    insert a token into the table or poison the lock over the same table. -/
theorem step_sessions_cases (s : AuthState Role Log) (w : World) (c : Call) :
    (step lib s w c).2.sessions = s.sessions ∨
      s.sessions.poisoned = false ∧
        ((∃ token info, (step lib s w c).2.sessions = ⟨s.sessions.data.insert token info, false⟩) ∨
          (step lib s w c).2.sessions = s.sessions.poison) := by
  cases c with
  | createUser | deleteUsers => exact .inl rfl
  | putUserSession body =>
    have post : (step lib s w (.putUserSession body)).2.sessions =
        (putUserSessionController lib w body s.usersLog s.sessions).2 := rfl
    rw [post]
    rcases putUserSession_cases lib w body s.usersLog s.sessions with
      ⟨-, same⟩ | ⟨_, _, -, -, -, free, ⟨_, -, eq⟩ | ⟨_, -, eq⟩⟩
    · exact .inl same
    · exact .inr ⟨free, .inl ⟨_, _, by rw [eq]⟩⟩
    · exact .inr ⟨free, .inr (by rw [eq])⟩

/-- Every session of the table a run ends with was in the table at the start, or its token is
    the answer of a `put_user_session` of the run. -/
theorem run_session_provenance (s : AuthState Role Log) (requests : List (Call × World))
    (token : String) (info : SessionInfo Role)
    (held : (run lib s requests).sessions.data.get token = some info) :
    s.sessions.data.get token = some info ∨
      ∃ t ∈ transitions lib s requests, t.answer = .ok (.token token) := by
  induction requests generalizing s with
  | nil => exact .inl held
  | cons r requests ih =>
    obtain ⟨c, w⟩ := r
    simp only [transitions, List.mem_cons, exists_eq_or_imp]
    rcases ih _ held with before | later
    · obtain ⟨-, changes, inserts, -⟩ := step_gated lib s w c
      by_cases same : (step lib s w c).2.sessions.data = s.sessions.data
      · exact .inl (same ▸ before)
      · obtain ⟨issued, answered⟩ := changes same
        obtain ⟨_, _, reg, exp, -, -, -, -, -, -, inserted⟩ := inserts issued answered
        rw [inserted, HashMap.get_insert] at before
        by_cases h : token = issued
        · exact .inr (.inl (h ▸ answered))
        · exact .inl (by simpa [h] using before)
    · exact .inr (.inr later)

theorem run_session_provenance_session :
    (run sessionLib initialAuth [(.putUserSession "", epochWorld)]).sessions.data.get "token" =
        some ⟨⟨3600, 0, by decide, by decide, by decide⟩, []⟩ ∧
      (initialAuth.sessions.data.get "token" =
          some ⟨⟨3600, 0, by decide, by decide, by decide⟩, []⟩ ∨
        ∃ t ∈ transitions sessionLib initialAuth [(.putUserSession "", epochWorld)],
          t.answer = .ok (.token "token")) :=
  have held : (run sessionLib initialAuth [(.putUserSession "", epochWorld)]).sessions.data.get
      "token" = some ⟨⟨3600, 0, by decide, by decide, by decide⟩, []⟩ := rfl
  ⟨held, run_session_provenance sessionLib initialAuth _ "token" _ held⟩

/-- Once the session lock is poisoned it stays so: over every later run the session table
    never changes and no request is answered with a token. -/
theorem run_poisoned_sessions (s : AuthState Role Log) (requests : List (Call × World))
    (poisoned : s.sessions.poisoned = true) :
    (run lib s requests).sessions = s.sessions ∧
      ∀ t ∈ transitions lib s requests, ∀ token, t.answer ≠ .ok (.token token) := by
  induction requests generalizing s with
  | nil => exact ⟨rfl, fun _ h => nomatch h⟩
  | cons r requests ih =>
    obtain ⟨c, w⟩ := r
    have same : (step lib s w c).2.sessions = s.sessions := by
      rcases step_sessions_cases lib s w c with same | ⟨free, -⟩
      · exact same
      · rw [poisoned] at free; cases free
    obtain ⟨kept, silent⟩ := ih _ (same ▸ poisoned)
    refine ⟨kept.trans same, ?_⟩
    simp only [transitions, List.mem_cons, forall_eq_or_imp]
    refine ⟨fun token answered => ?_, silent⟩
    obtain ⟨_, _, _, _, -, -, -, -, -, -, inserted⟩ := (step_gated lib s w c).2.2.1 token answered
    have := congrArg Mutex.poisoned (same.symm.trans inserted)
    rw [poisoned] at this
    cases this

theorem run_poisoned_sessions_session :
    (⟨(), ⟨.empty, true⟩⟩ : AuthState Unit Unit).sessions.poisoned = true ∧
      (run sessionLib ⟨(), ⟨.empty, true⟩⟩ [(.putUserSession "", epochWorld)]).sessions =
        ⟨.empty, true⟩ :=
  ⟨rfl, (run_poisoned_sessions sessionLib ⟨(), ⟨.empty, true⟩⟩ _ rfl).1⟩

/-- No request removes a session: a token in the table at the start is in it after every run. -/
theorem run_sessions_persist (s : AuthState Role Log) (requests : List (Call × World))
    (token : String) (held : (s.sessions.data.get token).isSome) :
    ((run lib s requests).sessions.data.get token).isSome := by
  induction requests generalizing s with
  | nil => exact held
  | cons r requests ih =>
    obtain ⟨c, w⟩ := r
    refine ih _ ?_
    rcases step_sessions_cases lib s w c with same | ⟨-, ⟨issued, info, inserted⟩ | poisoned⟩
    · rwa [same]
    · rw [inserted, HashMap.get_insert]
      split
      · rfl
      · exact held
    · rwa [poisoned, Mutex.poison_data]

theorem run_sessions_persist_session :
    (initialAuth.sessions.data.get "token").isSome = false ∧
      ((run sessionLib initialAuth [(.putUserSession "", epochWorld)]).sessions.data.get
        "token").isSome = true ∧
      ((run sessionLib (run sessionLib initialAuth [(.putUserSession "", epochWorld)])
        [(.createUser "", epochWorld)]).sessions.data.get "token").isSome = true :=
  ⟨rfl, rfl, run_sessions_persist sessionLib _ _ "token" rfl⟩

end WooriDb.Auth

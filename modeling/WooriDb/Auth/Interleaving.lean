import WooriDb.Auth.Run

/-!
# Interleaved requests

actix runs each handler as a future, and other requests run wherever a future awaits.
`create_user_controller` and `delete_users_controller` contain no `.await`: each runs from its
start to its end with no other request in between. `put_user_session_controller` awaits
`io::find_user` (`controllers.rs:168`): it decodes the body and `find_user` reads the users
log, and other requests may run before the rest of the controller (`resumeSession`) verifies
the password and takes the session lock. A `Server` is the auth state and the calls suspended
at that await; an `Event` starts a request or resumes a suspended call, and a list of events
is one interleaving.

`serverRun_serial` connects this model with `Auth/Run`: the interleaving that resumes each
call at once is the sequential `run`, answers included. In other interleavings the record
`find_user` returned can be stale, since the resumed call never reads the users log again: a
login suspended before a `delete_users` of its user still opens a session
(`suspended_session_outlives_delete`). What does hold across every interleaving, read off the
turns of the run (`serverTurns`), is `serverRun_session_provenance`: each new session was
inserted by the turn that answered its token, resuming a call whose body decoded and whose
password verified against the record `find_user` returned at an earlier turn of its body. And
no update is lost: the final table holds exactly the tokens it started with and those the
interleaving answered (`serverRun_session_tokens`).
-/

namespace WooriDb.Auth

/-- A `put_user_session_controller` call suspended at `io::find_user(..).await`: its body, the
    user decoded from it, and what `find_user` returned on the users log of that moment. -/
structure Suspended (Role : Type) where
  body : String
  user : Schemas.User
  found : Except Error (User Role)

/-- The auth server between two events: the shared state, and the calls suspended at the
    await in the order they reached it. -/
structure Server (Role Log : Type) where
  state : AuthState Role Log
  suspended : List (Suspended Role)

/-- What happens next: a request arrives and runs until it ends or awaits, or the `i`-th
    suspended call resumes; each with what it draws from outside the program. -/
inductive Event where
  | request (call : Call) (w : World)
  | resume (i : Nat) (w : World)

variable {Role Log : Type} (lib : AuthLib Role Log)

/-- One event, with the answer it gives, if any. A `put_user_session` whose body decodes reads
    the users log and suspends without an answer; resuming it runs `resumeSession` on the
    session lock of that moment. Resuming a call that is not suspended does nothing. -/
def serverStep (srv : Server Role Log) : Event → Option (Exit Error Response) × Server Role Log
  | .request (.putUserSession body) _ =>
    match lib.user body with
    | .error _ => (some (.err (.authenticationBadRequestBody Error.unknownMessage)), srv)
    | .ok user =>
      (none, { srv with suspended :=
        srv.suspended ++ [⟨body, user, lib.findUser user srv.state.usersLog⟩] })
  | .request call w =>
    (some (step lib srv.state w call).1, { srv with state := (step lib srv.state w call).2 })
  | .resume i w =>
    match srv.suspended.get? i with
    | none => (none, srv)
    | some call =>
      let resumed := resumeSession lib w call.user call.found srv.state.sessions
      (some (Response.token <$> resumed.1),
        ⟨{ srv.state with sessions := resumed.2 }, srv.suspended.eraseIdx i⟩)

/-- The server an interleaving ends in, and the answers it gave, in order. -/
def serverRun (srv : Server Role Log) : List Event → Server Role Log × List (Exit Error Response)
  | [] => (srv, [])
  | e :: events =>
    ((serverRun (serverStep lib srv e).2 events).1,
      (serverStep lib srv e).1.toList ++ (serverRun (serverStep lib srv e).2 events).2)

/-- The interleaving in which each request runs to its end before the next arrives: a
    `put_user_session` resumes at once, as the only suspended call. -/
def serial : List (Call × World) → List Event
  | [] => []
  | (.putUserSession body, w) :: requests =>
    .request (.putUserSession body) w :: .resume 0 w :: serial requests
  | (call, w) :: requests => .request call w :: serial requests

/-- A request run to its end from a server with no suspended call is the step of `Auth/Run`. -/
theorem serverRun_serial_cons (s : AuthState Role Log) (call : Call) (w : World)
    (requests : List (Call × World)) :
    serverRun lib ⟨s, []⟩ (serial ((call, w) :: requests)) =
      ((serverRun lib ⟨(step lib s w call).2, []⟩ (serial requests)).1,
        (step lib s w call).1 ::
          (serverRun lib ⟨(step lib s w call).2, []⟩ (serial requests)).2) := by
  cases call with
  | createUser | deleteUsers => rfl
  | putUserSession body =>
    cases parses : lib.user body with
    | error => simp only [serial, serverRun, serverStep, step, putUserSessionController, parses,
        List.get?_nil, Exit.map_err]; rfl
    | ok user => simp only [serial, serverRun, serverStep, step, putUserSessionController, parses,
        List.nil_append, List.get?_cons_zero, List.eraseIdx_cons_zero]; rfl

/-- The sequential runs of `Auth/Run` are the interleavings without suspension: from a server
    with no suspended call, `serial requests` ends in the state `run` ends in and gives the
    answers of its transitions. -/
theorem serverRun_serial (s : AuthState Role Log) (requests : List (Call × World)) :
    serverRun lib ⟨s, []⟩ (serial requests) =
      (⟨run lib s requests, []⟩, (transitions lib s requests).map Transition.answer) := by
  induction requests generalizing s with
  | nil => rfl
  | cons r requests ih =>
    obtain ⟨call, w⟩ := r
    rw [serverRun_serial_cons, ih]
    rfl

/-! ## Stale records -/

section Admin

variable (between : List (Call × World))
  (admin : ∀ r ∈ between, ∃ b, r.1 = .createUser b ∨ r.1 = .deleteUsers b)
include admin

/-- Admin requests leave the session lock alone. -/
theorem run_admin_sessions (s : AuthState Role Log) :
    (run lib s between).sessions = s.sessions := by
  induction between generalizing s with
  | nil => rfl
  | cons r between ih =>
    obtain ⟨b, h | h⟩ := admin r (List.mem_cons_self _ _) <;>
      obtain ⟨call, w⟩ := r <;> cases h <;>
      exact ih (fun r hr => admin r (List.mem_cons_of_mem _ hr)) _

/-- Admin requests run to their end whatever calls are suspended, and leave those calls as
    they are. -/
theorem serverRun_admin (s : AuthState Role Log) (suspended : List (Suspended Role))
    (rest : List Event) :
    (serverRun lib ⟨s, suspended⟩ (between.map (fun r => .request r.1 r.2) ++ rest)).1 =
      (serverRun lib ⟨run lib s between, suspended⟩ rest).1 := by
  induction between generalizing s with
  | nil => rfl
  | cons r between ih =>
    obtain ⟨b, h | h⟩ := admin r (List.mem_cons_self _ _) <;>
      obtain ⟨call, w⟩ := r <;> cases h <;>
      exact ih (fun r hr => admin r (List.mem_cons_of_mem _ hr)) _

end Admin

/-- A login suspended at `find_user` resumes on the record it found then. Whatever admin
    requests run in between, and whatever they do to the users log (`delete_users` of that very
    user included), a verified password on a free lock opens the session: the server ends with
    the users log those requests left and the new session in the table. -/
theorem suspended_session_outlives_delete (s : AuthState Role Log) (body : String)
    (w w' : World) (between : List (Call × World)) (user : Schemas.User) (reg : User Role)
    (exp : DateTimeUtc)
    (admin : ∀ r ∈ between, ∃ b, r.1 = .createUser b ∨ r.1 = .deleteUsers b)
    (parses : lib.user body = .ok user) (found : lib.findUser user s.usersLog = .ok reg)
    (verified : lib.bcrypt.verify user.userPassword reg.hash = .ok true)
    (free : s.sessions.poisoned = false) (expires : expiration lib w' = .ok exp) :
    (serverRun lib ⟨s, []⟩ (.request (.putUserSession body) w ::
        between.map (fun r => .request r.1 r.2) ++ [.resume 0 w'])).1 =
      ⟨{ run lib s between with
          sessions := ⟨s.sessions.data.insert (sessionToken lib w') ⟨exp, reg.roles⟩, false⟩ },
        []⟩ := by
  have suspends : serverStep lib ⟨s, []⟩ (.request (.putUserSession body) w) =
      (none, ⟨s, [⟨body, user, .ok reg⟩]⟩) := by
    simp only [serverStep, parses, found, List.nil_append]
  have kept := run_admin_sessions lib between admin s
  calc (serverRun lib ⟨s, []⟩ (.request (.putUserSession body) w ::
          between.map (fun r => .request r.1 r.2) ++ [.resume 0 w'])).1
      = (serverRun lib ⟨s, [⟨body, user, .ok reg⟩]⟩
          (between.map (fun r => .request r.1 r.2) ++ [.resume 0 w'])).1 := by
        rw [List.cons_append, serverRun, suspends]
    _ = (serverRun lib ⟨run lib s between, [⟨body, user, .ok reg⟩]⟩ [.resume 0 w']).1 :=
        serverRun_admin lib between admin _ _ _
    _ = _ := by
        simp only [serverRun, serverStep, List.get?_cons_zero, resumeSession, User.context,
          verified, kept, Mutex.lock, free, expires, List.eraseIdx_cons_zero]
        rfl

/-- An auth layer over a users log that is the list of the users' ids: `find_user` looks the
    id up in the log, `delete_users` removes the nil id from it, the admin check and every
    password pass, and sessions live an hour. -/
def registryLib : AuthLib Unit (List Uuid) where
  createUserWithAdmin _ := .error ""
  deleteUsersWithAdmin _ := .ok ⟨"admin", "password", [Uuid.nil]⟩
  user _ := .ok ⟨Uuid.nil, "password"⟩
  admin := ⟨fun _ _ => true, 4⟩
  bcrypt := ⟨fun _ _ _ => .ok "token", fun _ _ => .ok true⟩
  toUsersLog u log := .ok (u.id :: log)
  removeUsersFromLog ids log := .ok (log.filter fun id => !ids.contains id)
  findUser u log := if log.contains u.id then .ok ⟨u.id, "hash", []⟩ else .error .unknown
  expirationTime := I64.ofInt 3600

/-- The nil user registered, and a free, empty session table. -/
def registeredAuth : AuthState Unit (List Uuid) := ⟨[Uuid.nil], ⟨.empty, false⟩⟩

theorem suspended_session_outlives_delete_registry :
    (run registryLib registeredAuth [(.deleteUsers "", epochWorld)]).usersLog = [] ∧
      registryLib.findUser ⟨Uuid.nil, "password"⟩ [] = .error .unknown ∧
      (serverRun registryLib ⟨registeredAuth, []⟩ (.request (.putUserSession "") epochWorld ::
          [(Call.deleteUsers "", epochWorld)].map (fun r => .request r.1 r.2) ++
            [.resume 0 epochWorld])).1 =
        ⟨{ run registryLib registeredAuth [(.deleteUsers "", epochWorld)] with
            sessions := ⟨(.empty : SessionContext Unit).insert (sessionToken registryLib epochWorld)
              ⟨⟨3600, 0, by decide, by decide, by decide⟩, []⟩, false⟩ }, []⟩ :=
  ⟨rfl, rfl, suspended_session_outlives_delete registryLib registeredAuth "" epochWorld
    epochWorld _ ⟨Uuid.nil, "password"⟩ ⟨Uuid.nil, "hash", []⟩ _
    (fun r hr => ⟨"", .inr (by rw [List.mem_singleton.1 hr])⟩) rfl rfl rfl rfl rfl⟩

/-! ## Sessions across every interleaving -/

/-- One event of an interleaving: the server before, the event, its answer, and the server
    after. -/
structure Turn (Role Log : Type) where
  pre : Server Role Log
  event : Event
  answer : Option (Exit Error Response)
  post : Server Role Log

/-- The turns of the interleaving `events` from `srv`, in order. -/
def serverTurns (srv : Server Role Log) : List Event → List (Turn Role Log)
  | [] => []
  | e :: events =>
    ⟨srv, e, (serverStep lib srv e).1, (serverStep lib srv e).2⟩ ::
      serverTurns (serverStep lib srv e).2 events

/-- A suspended call was suspended at a turn of `turns`: a `put_user_session` request with its
    body, which decodes to its user, and what `find_user` returned for that user on the users
    log of that turn. -/
def Recorded (turns : List (Turn Role Log)) (p : Suspended Role) : Prop :=
  ∃ t ∈ turns, ∃ w, t.event = .request (.putUserSession p.body) w ∧
    lib.user p.body = .ok p.user ∧ p.found = lib.findUser p.user t.pre.state.usersLog

/-- The `j`-th turn of `turns` resumes a call recorded at an earlier turn, whose record's hash
    verifies its password, and answers it with `token`, the token of its world, inserting
    `info`: the expiry computed at that turn and the record's roles. -/
def Issues (turns : List (Turn Role Log)) (token : String) (info : SessionInfo Role) (j : Nat) :
    Prop :=
  ∃ t i w p reg exp, turns.get? j = some t ∧ t.event = .resume i w ∧
    t.pre.suspended.get? i = some p ∧ Recorded lib (turns.take j) p ∧ p.found = .ok reg ∧
    lib.bcrypt.verify p.user.userPassword reg.hash = .ok true ∧
    expiration lib w = .ok exp ∧ token = sessionToken lib w ∧ info = ⟨exp, reg.roles⟩ ∧
    t.answer = some (.ok (.token token))

/-- One event leaves every suspended call suspended or resumed, and suspends at most a call
    recorded at that event's turn. -/
theorem serverStep_suspended (srv : Server Role Log) (e : Event) :
    ∀ p ∈ (serverStep lib srv e).2.suspended,
      p ∈ srv.suspended ∨
        Recorded lib [⟨srv, e, (serverStep lib srv e).1, (serverStep lib srv e).2⟩] p := by
  cases e with
  | request call w =>
    cases call with
    | createUser | deleteUsers => exact fun p hp => .inl hp
    | putUserSession body =>
      cases parses : lib.user body with
      | error => simpa only [serverStep, parses] using fun p hp => Or.inl hp
      | ok user =>
        simp only [serverStep, parses, List.mem_append, List.mem_singleton]
        rintro p (old | rfl)
        · exact .inl old
        · exact .inr ⟨_, List.mem_singleton_self _, w, rfl, parses, rfl⟩
  | resume i w =>
    simp only [serverStep]
    split
    · exact fun p hp => .inl hp
    · exact fun p hp => .inl (List.mem_of_mem_eraseIdx hp)

/-- What one event does to the session lock: nothing, poison it, or, when the `i`-th suspended
    call resumes with a record whose hash verifies its password, insert the token of the
    event's world with the expiry and the record's roles, and answer that token. -/
theorem serverStep_sessions (srv : Server Role Log) (e : Event) :
    (serverStep lib srv e).2.state.sessions = srv.state.sessions ∨
    (serverStep lib srv e).2.state.sessions = srv.state.sessions.poison ∨
    ∃ i w p reg exp, e = .resume i w ∧ srv.suspended.get? i = some p ∧ p.found = .ok reg ∧
      lib.bcrypt.verify p.user.userPassword reg.hash = .ok true ∧ expiration lib w = .ok exp ∧
      (serverStep lib srv e).2.state.sessions =
        ⟨srv.state.sessions.data.insert (sessionToken lib w) ⟨exp, reg.roles⟩, false⟩ ∧
      (serverStep lib srv e).1 = some (.ok (.token (sessionToken lib w))) := by
  cases e with
  | request call w =>
    cases call with
    | createUser | deleteUsers => exact .inl rfl
    | putUserSession body =>
      left
      simp only [serverStep]
      split <;> rfl
  | resume i w =>
    simp only [serverStep]
    split
    · exact .inl rfl
    · rename_i p hp
      rcases resumeSession_cases lib w p.user p.found srv.state.sessions with
        ⟨-, same⟩ | ⟨reg, found, verified, -, ⟨exp, computed, eq⟩ | ⟨_, -, eq⟩⟩
      · exact .inl same
      · exact .inr (.inr ⟨i, w, p, reg, exp, rfl, hp, found, verified, computed, by rw [eq],
          by rw [eq]; rfl⟩)
      · exact .inr (.inl (by rw [eq]))

theorem Recorded.mono {turns turns' : List (Turn Role Log)} (sub : turns ⊆ turns')
    {p : Suspended Role} (recorded : Recorded lib turns p) : Recorded lib turns' p :=
  let ⟨t, mem, rest⟩ := recorded
  ⟨t, sub mem, rest⟩

/-- The run lemma behind `serverRun_session_provenance`, from any server whose suspended calls
    are recorded on the turns `before` it. -/
theorem serverRun_provenance (srv : Server Role Log) (before : List (Turn Role Log))
    (events : List Event) (token : String) (info : SessionInfo Role)
    (recorded : ∀ p ∈ srv.suspended, Recorded lib before p)
    (held : (serverRun lib srv events).1.state.sessions.data.get token = some info) :
    srv.state.sessions.data.get token = some info ∨
      (.ok (.token token) ∈ (serverRun lib srv events).2 ∧
        ∃ j, Issues lib (before ++ serverTurns lib srv events) token info (before.length + j)) := by
  induction events generalizing srv before with
  | nil => exact .inl held
  | cons e events ih =>
    let turn : Turn Role Log := ⟨srv, e, (serverStep lib srv e).1, (serverStep lib srv e).2⟩
    have recorded' : ∀ p ∈ (serverStep lib srv e).2.suspended,
        Recorded lib (before ++ [turn]) p := fun p hp =>
      (serverStep_suspended lib srv e p hp).elim
        (fun old => Recorded.mono lib (List.subset_append_left _ _) (recorded p old))
        (Recorded.mono lib (List.subset_append_right _ _))
    have turns : before ++ [turn] ++ serverTurns lib (serverStep lib srv e).2 events =
        before ++ serverTurns lib srv (e :: events) := by
      simp [serverTurns, turn]
    rcases ih _ _ recorded' held with earlier | ⟨answered, j, issues⟩
    · rcases serverStep_sessions lib srv e with same | poisoned |
          ⟨i, w, p, reg, exp, resumed, hp, found, verified, computed, inserted, answer⟩
      · exact .inl (same ▸ earlier)
      · rw [poisoned, Mutex.poison_data] at earlier
        exact .inl earlier
      · rw [inserted, HashMap.get_insert] at earlier
        split at earlier
        · rename_i issued
          subst issued
          have current : (before ++ serverTurns lib srv (e :: events)).get? (before.length + 0) =
              some turn := by
            rw [Nat.add_zero, List.get?_eq_getElem?, List.getElem?_append_right (Nat.le_refl _),
              Nat.sub_self, serverTurns, List.getElem?_cons_zero]
          have taken : (before ++ serverTurns lib srv (e :: events)).take (before.length + 0) =
              before := by
            simp
          refine .inr ⟨?_, 0, turn, i, w, p, reg, exp, current, resumed, hp,
            by rw [taken]; exact recorded p (List.get?_mem hp), found, verified, computed, rfl,
            (Option.some.inj earlier).symm, answer⟩
          show _ ∈ (serverStep lib srv e).1.toList ++ _
          rw [answer]
          exact List.mem_cons_self _ _
        · exact .inl earlier
    · have index : (before ++ [turn]).length + j = before.length + (j + 1) := by
        simp only [List.length_append, List.length_singleton]; omega
      rw [turns, index] at issues
      exact .inr ⟨List.mem_append_right _ answered, j + 1, issues⟩

/-- Across every interleaving, every session of the final table was in the table at the start,
    or a turn of the interleaving issued it: that turn resumed a call recorded at an earlier
    turn, a `put_user_session` request with the call's body, which decodes to a user for whom
    `find_user` returned, on the users log of that earlier turn, a record whose hash verifies
    the user's password; it answered that call with the token, and the session holds the
    expiry it computed and the record's roles. The users log may have changed between the two
    turns. -/
theorem serverRun_session_provenance (s : AuthState Role Log) (events : List Event)
    (token : String) (info : SessionInfo Role)
    (held : (serverRun lib ⟨s, []⟩ events).1.state.sessions.data.get token = some info) :
    s.sessions.data.get token = some info ∨
      ∃ j, Issues lib (serverTurns lib ⟨s, []⟩ events) token info j := by
  rcases serverRun_provenance lib ⟨s, []⟩ [] events token info (fun _ h => nomatch h) held with
    before | ⟨-, j, issued⟩
  · exact .inl before
  · exact .inr ⟨j, by simpa using issued⟩

/-- One event keeps every token of the session table: it leaves the table alone, poisons the
    lock over the same table, or inserts one token. -/
theorem serverStep_keeps_token (srv : Server Role Log) (e : Event) (token : String)
    (held : (srv.state.sessions.data.get token).isSome) :
    ((serverStep lib srv e).2.state.sessions.data.get token).isSome := by
  rcases serverStep_sessions lib srv e with
    same | poisoned | ⟨_, _, _, _, _, -, -, -, -, -, inserted, -⟩
  · rwa [same]
  · rwa [poisoned, Mutex.poison_data]
  · rw [inserted, HashMap.get_insert]
    split
    · rfl
    · exact held

/-- A token one event answers is in the session table after it. -/
theorem serverStep_answered_held (srv : Server Role Log) (e : Event) (token : String)
    (answered : (serverStep lib srv e).1 = some (.ok (.token token))) :
    ((serverStep lib srv e).2.state.sessions.data.get token).isSome := by
  cases e with
  | request call w =>
    cases call with
    | putUserSession body =>
      simp only [serverStep] at answered
      split at answered <;> cases answered
    | createUser body | deleteUsers body =>
      exact absurd (Option.some.inj answered)
        (ofExcept_map_ne_token _ _ (fun _ _ => Response.noConfusion) token)
  | resume i w =>
    cases found : srv.suspended.get? i with
    | none => simp only [serverStep, found] at answered; cases answered
    | some p =>
      simp only [serverStep, found] at answered ⊢
      rcases resumeSession_cases lib w p.user p.found srv.state.sessions with
        ⟨⟨e, err⟩, -⟩ | ⟨reg, -, -, -, ⟨exp, -, eq⟩ | ⟨msg, -, eq⟩⟩
      · rw [err] at answered; cases answered
      · rw [eq] at answered ⊢
        cases answered
        simp
      · rw [eq] at answered; cases answered

/-- An interleaving keeps every token of the session table it starts from. -/
theorem serverRun_keeps_token (srv : Server Role Log) (events : List Event) (token : String)
    (held : (srv.state.sessions.data.get token).isSome) :
    ((serverRun lib srv events).1.state.sessions.data.get token).isSome := by
  induction events generalizing srv with
  | nil => exact held
  | cons e events ih => exact ih _ (serverStep_keeps_token lib srv e token held)

/-- A token an interleaving answers is in the session table it ends with. -/
theorem serverRun_answered_held (srv : Server Role Log) (events : List Event) (token : String)
    (answered : .ok (.token token) ∈ (serverRun lib srv events).2) :
    ((serverRun lib srv events).1.state.sessions.data.get token).isSome := by
  induction events generalizing srv with
  | nil => cases answered
  | cons e events ih =>
    rcases List.mem_append.1 answered with now | later
    · exact serverRun_keeps_token lib _ events token
        (serverStep_answered_held lib srv e token (Option.mem_toList.1 now))
    · exact ih _ later

/-- Across every interleaving, the tokens of the final session table are exactly those of the
    initial table and those the interleaving answers: no session is lost to a concurrent login
    or to a poisoning of the lock, and none is held that no call was answered with. -/
theorem serverRun_session_tokens (s : AuthState Role Log) (events : List Event)
    (token : String) :
    ((serverRun lib ⟨s, []⟩ events).1.state.sessions.data.get token).isSome ↔
      (s.sessions.data.get token).isSome ∨
        .ok (.token token) ∈ (serverRun lib ⟨s, []⟩ events).2 := by
  refine ⟨fun held => ?_, fun answered => ?_⟩
  · obtain ⟨info, holds⟩ := Option.isSome_iff_exists.1 held
    rcases serverRun_provenance lib ⟨s, []⟩ [] events token info (fun _ h => nomatch h) holds with
      before | ⟨answered, -⟩
    · exact .inl (by rw [before]; rfl)
    · exact .inr answered
  · rcases answered with before | answered
    · exact serverRun_keeps_token lib _ events token before
    · exact serverRun_answered_held lib _ events token answered

/-- A login suspended across a `delete_users` of its user. -/
def staleLogin : List Event :=
  [.request (.putUserSession "") epochWorld, .request (.deleteUsers "") epochWorld,
    .resume 0 epochWorld]

theorem serverRun_session_provenance_registry :
    (serverRun registryLib ⟨registeredAuth, []⟩ staleLogin).1.state.sessions.data.get "token" =
        some ⟨⟨3600, 0, by decide, by decide, by decide⟩, []⟩ ∧
      (registeredAuth.sessions.data.get "token" =
          some ⟨⟨3600, 0, by decide, by decide, by decide⟩, []⟩ ∨
        ∃ j, Issues registryLib (serverTurns registryLib ⟨registeredAuth, []⟩ staleLogin)
          "token" ⟨⟨3600, 0, by decide, by decide, by decide⟩, []⟩ j) :=
  have held : (serverRun registryLib ⟨registeredAuth, []⟩ staleLogin).1.state.sessions.data.get
      "token" = some ⟨⟨3600, 0, by decide, by decide, by decide⟩, []⟩ := rfl
  ⟨held, serverRun_session_provenance registryLib registeredAuth staleLogin "token" _ held⟩

end WooriDb.Auth

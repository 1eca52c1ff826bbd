import GatewayVpn.Auth.Service

/-!
# Which sessions are accepted

A session is *earned* by a login that verified a hash of its user's password, as long as nothing
has ended it since: no logout or revocation of it, no reset, no disabling and no deletion of the
user.  The hash is still the user's, or the last change of the password was made by this very
session.  What has happened is read off the answers of the transactions, not off what they stored.
Every transaction of the service keeps the sessions that are not revoked earned, so no interleaving
of its operations lets `Authenticate` accept another one.
-/

namespace GatewayVpn.Auth

open Durable Option Table

variable {s : Service} {lib : Library}

/-! ## the reason why a session is valid -/

def Deed.Ends (user session : String) : Deed → Prop
  | .revoked x => x = session
  | .reset u => u = user
  | .disabled u => u = user
  | .deleted u => u = user
  | _ => False

def lastChange (user : String) : List Deed → Option String
  | [] => none
  | .changed u session :: ds => if u = user then some session else lastChange user ds
  | _ :: ds => lastChange user ds

/-- a login verified a hash and opened the session; nothing has ended it since, and the hash is
still the user's unless the session itself was the last to change it -/
def Earned (lib : Library) (history : List Deed) (user : UserRow) (session : String) : Prop :=
  ∃ newer password hash older,
    history = newer ++ .opened session user.id password hash :: older ∧
    verifyPassword lib password hash = .ok true ∧ (∀ d ∈ newer, ¬ d.Ends user.id session) ∧
    (hash = user.passwordHash ∨ lastChange user.id history = some session)

def Sound (lib : Library) (w : World) : Prop :=
  ∀ k session, w.sessions.find k = some session → ∃ user, w.users.find session.userID = some user ∧
    (session.revokedAt = none → user.enabled = true ∧ Earned lib w.history user session.idHash)

variable {history : List Deed} {session : String} {user : UserRow}

theorem Earned.cons {d : Deed} (h : Earned lib history user session)
    (hends : ¬ d.Ends user.id session)
    (hlast : lastChange user.id (d :: history) = lastChange user.id history) :
    Earned lib (d :: history) user session := by
  obtain ⟨newer, password, hash, older, hsplit, hverified, hkept, hhash⟩ := h
  refine ⟨d :: newer, password, hash, older, by rw [hsplit]; rfl, hverified, ?_, ?_⟩
  · intro e he
    rcases List.mem_cons.mp he with rfl | he
    · exact hends
    · exact hkept e he
  · rw [hlast]
    exact hhash

theorem Earned.change {new : UserRow} (h : Earned lib history user session)
    (hid : new.id = user.id) : Earned lib (.changed user.id session :: history) new session := by
  obtain ⟨newer, password, hash, older, hsplit, hverified, hkept, hhash⟩ := h
  refine ⟨.changed user.id session :: newer, password, hash, older, ?_, hverified, ?_, ?_⟩
  · rw [hsplit, hid]
    rfl
  · intro e he
    rcases List.mem_cons.mp he with rfl | he
    · exact id
    · rw [hid]
      exact hkept e he
  · refine .inr ?_
    rw [hid, lastChange, if_pos rfl]

theorem Earned.congr {new : UserRow} (h : Earned lib history user session) (hid : new.id = user.id)
    (hhash : new.passwordHash = user.passwordHash) : Earned lib history new session := by
  unfold Earned
  rw [hid, hhash]
  exact h

/-! ## commits -/

structure Same (w v : World) : Prop where
  users : v.users = w.users
  sessions : v.sessions = w.sessions
  history : v.history = w.history

variable {v w : World}

theorem Same.sound (h : Same w v) (hw : Sound lib w) : Sound lib v := by
  unfold Sound
  rw [h.users, h.sessions, h.history]
  exact hw

theorem sound_touch (idHash : String) (h : Sound lib w) : Sound lib (w.touch idHash) := by
  intro k session hfind
  have hfind : (w.sessions.update idHash (fun s => { s with lastSeenAt := w.now })
    fun _ => rfl).find k = some session := hfind
  rw [find_update] at hfind
  obtain ⟨old, hold, rfl⟩ := map_eq_some_iff.mp hfind
  obtain ⟨user, huser, hvalid⟩ := h k old hold
  split
  · exact ⟨user, huser, hvalid⟩
  · exact ⟨user, huser, hvalid⟩

variable {now : Int}

theorem sound_openSession {sessions : Table SessionRow.idHash} {row : SessionRow}
    {key password : String} (h : Sound lib w) (hinsert : w.sessions.insert row = some sessions)
    (huser : w.users.find user.id = some user) (howner : row.userID = user.id)
    (henabled : user.enabled = true)
    (hverified : verifyPassword lib password user.passwordHash = .ok true) :
    Sound lib ((w.openSession sessions key now user).record
      (.opened row.idHash user.id password user.passwordHash)) := by
  intro k session hfind
  have hfind : sessions.find k = some session := hfind
  rw [(find_insert hinsert k).2] at hfind
  split at hfind
  · obtain rfl := some.inj hfind
    refine ⟨user, by rw [howner]; exact huser, fun _ => ⟨henabled, ?_⟩⟩
    exact ⟨[], password, user.passwordHash, w.history, rfl, hverified, by simp, .inl rfl⟩
  obtain ⟨other, hother, hvalid⟩ := h k session hfind
  refine ⟨other, hother, fun hnone => ?_⟩
  exact ⟨(hvalid hnone).1, (hvalid hnone).2.cons id rfl⟩

variable {userID : String}

theorem sound_setUser {f : UserRow → UserRow} (h : Sound lib w) (hf : ∀ u, (f u).id = u.id)
    (husers : v.users = w.users.update userID f hf)
    (hsessions : ∀ k session, v.sessions.find k = some session → ∃ old,
      w.sessions.find k = some old ∧ session.idHash = old.idHash ∧ session.userID = old.userID ∧
        (session.revokedAt = none → old.revokedAt = none))
    (hothers : ∀ user session, user.id ≠ userID → Earned lib w.history user session →
      Earned lib v.history user session)
    (hown : ∀ user k session, w.users.find userID = some user → v.sessions.find k = some session →
      session.userID = userID → session.revokedAt = none → user.enabled = true →
      Earned lib w.history user session.idHash →
        (f user).enabled = true ∧ Earned lib v.history (f user) session.idHash) : Sound lib v := by
  intro k session hfind
  obtain ⟨old, hold, hid, howner, hrevoked⟩ := hsessions k session hfind
  obtain ⟨user, huser, hvalid⟩ := h k old hold
  rw [← howner] at huser
  by_cases hsame : session.userID = userID
  · refine ⟨f user, ?_, fun hnone => ?_⟩
    · rw [husers, hsame, find_update_self, ← hsame, huser]
      rfl
    have hbefore := hvalid (hrevoked hnone)
    rw [← hid] at hbefore
    exact hown user k session (hsame ▸ huser) hfind hsame hnone hbefore.1 hbefore.2
  refine ⟨user, ?_, fun hnone => ?_⟩
  · rw [husers, find_update_ne hf hsame]
    exact huser
  have hbefore := hvalid (hrevoked hnone)
  rw [← hid] at hbefore
  have hne : user.id ≠ userID := by
    rw [key_of_find huser]
    exact hsame
  exact ⟨hbefore.1, hothers user _ hne hbefore.2⟩

theorem find_revokeWhere {p : SessionRow → Bool} {k : String} {session : SessionRow}
    (h : (w.revokeWhere now p).sessions.find k = some session) :
    ∃ old, w.sessions.find k = some old ∧ session.idHash = old.idHash ∧
      session.userID = old.userID ∧ (session.revokedAt = none → old.revokedAt = none) ∧
      (session.revokedAt = none → p old = false ∧ session = old) := by
  have hfind : (w.sessions.updateWhere (fun s => s.revokedAt = none && p s)
    (fun s => { s with revokedAt := some now }) fun _ => rfl).find k = some session := h
  rw [find_updateWhere] at hfind
  obtain ⟨old, hold, rfl⟩ := map_eq_some_iff.mp hfind
  refine ⟨old, hold, ?_⟩
  split
  · refine ⟨rfl, rfl, ?_, ?_⟩
    · intro hnone
      cases hnone
    · intro hnone
      cases hnone
  · next hp =>
    refine ⟨rfl, rfl, id, fun hnone => ⟨?_, rfl⟩⟩
    simpa [hnone] using hp

theorem sound_revokeOne (now : Int) (idHash : String) (h : Sound lib w) :
    Sound lib ((w.revokeWhere now fun s => s.idHash = idHash).record (.revoked idHash)) := by
  intro k session hfind
  obtain ⟨old, hold, hid, howner, hrevoked, hkept⟩ := find_revokeWhere hfind
  obtain ⟨user, huser, hvalid⟩ := h k old hold
  refine ⟨user, howner ▸ huser, fun hnone => ?_⟩
  obtain ⟨hother, rfl⟩ := hkept hnone
  refine ⟨(hvalid hnone).1, (hvalid hnone).2.cons (fun heq => ?_) rfl⟩
  have hne : session.idHash ≠ idHash := by simpa using hother
  exact hne heq.symm

theorem sound_commitChange {sessionHash newHash : String} (h : Sound lib w) :
    Sound lib ((w.commitChange userID sessionHash newHash now).record
      (.changed userID sessionHash)) := by
  refine sound_setUser h ?_ rfl ?_ ?_ ?_
  · exact fun _ => rfl
  · intro k session hfind
    obtain ⟨old, hold, hid, howner, hrevoked, -⟩ := find_revokeWhere hfind
    exact ⟨old, hold, hid, howner, hrevoked⟩
  · intro user session hne hearned
    refine hearned.cons id ?_
    rw [lastChange, if_neg (Ne.symm hne)]
  intro user k session huser hfind howner hnone henabled hearned
  refine ⟨henabled, ?_⟩
  -- the only session that is left is the one that made the change
  obtain ⟨old, -, -, -, -, hkept⟩ := find_revokeWhere hfind
  obtain ⟨hnot, rfl⟩ := hkept hnone
  have hsession : session.idHash = sessionHash := by
    simpa [howner] using hnot
  have hid : userID = user.id := (key_of_find huser).symm
  show Earned lib (.changed userID sessionHash :: w.history) _ session.idHash
  rw [← hsession, hid]
  exact hearned.change rfl

theorem sound_endAll {f : UserRow → UserRow} {d : Deed} (h : Sound lib w)
    (hf : ∀ u, (f u).id = u.id) (husers : v.users = w.users.update userID f hf)
    (hsessions : v.sessions = (w.revokeWhere now fun s => s.userID = userID).sessions)
    (hhistory : v.history = d :: w.history)
    (hends : ∀ user session, user ≠ userID → ¬ d.Ends user session)
    (hlast : ∀ user, lastChange user (d :: w.history) = lastChange user w.history) :
    Sound lib v := by
  refine sound_setUser h hf husers ?_ ?_ ?_
  · intro k session hfind
    rw [hsessions] at hfind
    obtain ⟨old, hold, hid, howner, hrevoked, -⟩ := find_revokeWhere hfind
    exact ⟨old, hold, hid, howner, hrevoked⟩
  · intro user session hne hearned
    rw [hhistory]
    exact hearned.cons (hends user.id _ hne) (hlast user.id)
  · intro user k session huser hfind howner hnone henabled hearned
    rw [hsessions] at hfind
    obtain ⟨old, -, -, -, -, hkept⟩ := find_revokeWhere hfind
    obtain ⟨hnot, rfl⟩ := hkept hnone
    simp [howner] at hnot

variable {actor : Principal} {username : String}

theorem sound_commitReset {newHash : String} (h : Sound lib w) :
    Sound lib ((w.commitReset actor userID username newHash now).record (.reset userID)) := by
  refine sound_endAll h ?_ rfl rfl rfl (fun _ _ hne heq => hne heq.symm) fun _ => rfl
  exact fun _ => rfl

theorem sound_commitUpdate {before enabled : Bool} (h : Sound lib w)
    (hbefore : ∀ user, w.users.find userID = some user → user.enabled = before) :
    Sound lib ((flagDeed userID before enabled).elim
      (w.commitUpdate actor userID username before enabled now)
      (w.commitUpdate actor userID username before enabled now).record) := by
  -- a user that stays enabled keeps the sessions, and one that was not enabled has none to lose
  have hkept : ∀ v : World, (before = true → enabled = true) →
      v.users = w.users.update userID (fun u => { u with
        username := username, enabled := enabled, updatedAt := now }) (fun _ => rfl) →
      v.sessions = w.sessions → (∀ user session, Earned lib w.history user session →
        Earned lib v.history user session) → Sound lib v := by
    intro v hflag husers hsessions hearned
    refine sound_setUser h _ husers
      (fun k session hfind => ⟨session, hsessions ▸ hfind, rfl, rfl, id⟩)
      (fun user session _ => hearned user session) ?_
    intro user k session huser _ _ _ henabled h
    exact ⟨hflag ((hbefore user huser).symm.trans henabled), hearned _ _ (h.congr rfl rfl)⟩
  cases before with
  | true =>
    cases enabled with
    | true => exact hkept _ id rfl rfl fun _ _ => id
    | false =>
    refine sound_endAll h ?_ rfl rfl rfl (fun _ _ hne heq => hne heq.symm) fun _ => rfl
    exact fun _ => rfl
  | false =>
  cases enabled with
  | true => exact hkept _ nofun rfl rfl fun _ _ hearned => hearned.cons id rfl
  | false => exact hkept _ nofun rfl rfl fun _ _ => id

theorem sound_commitDelete (h : Sound lib w) :
    Sound lib ((w.commitDelete actor userID username now).record (.deleted userID)) := by
  intro k session hfind
  have hfind : (w.sessions.delete fun s => s.userID = userID).find k = some session := hfind
  obtain ⟨hold, hother⟩ := find_delete.mp hfind
  obtain ⟨user, huser, hvalid⟩ := h k session hold
  have hne : session.userID ≠ userID := by simpa using hother
  have hid : user.id = session.userID := key_of_find huser
  refine ⟨user, ?_, fun hnone => ?_⟩
  · refine find_delete.mpr ⟨huser, ?_⟩
    rw [hid]
    simpa using hne
  refine ⟨(hvalid hnone).1, (hvalid hnone).2.cons (fun heq => hne ?_) rfl⟩
  rw [← hid]
  exact heq.symm

theorem sound_insertUser {row : UserRow} {event : EventType} (h : Sound lib w)
    (hinsert : insertUser w row event now = some v) : Sound lib v := by
  unfold insertUser at hinsert
  split at hinsert
  · cases hinsert
  obtain ⟨users, husers, rfl⟩ := map_eq_some_iff.mp hinsert
  intro k session hfind
  obtain ⟨user, huser, hvalid⟩ := h k session hfind
  refine ⟨user, ?_, hvalid⟩
  show users.find session.userID = some user
  obtain ⟨hnew, hrest⟩ := find_insert husers session.userID
  rw [hrest, if_neg]
  · exact huser
  intro heq
  rw [heq, hnew] at huser
  cases huser

/-! ## calls -/

theorem sound_acceptLogin {username key password clientKey : String} (h : Sound s.lib w)
    (huser : w.users.find user.id = some user) (henabled : user.enabled = true)
    (hverified : verifyPassword s.lib password user.passwordHash = .ok true) :
    Sound s.lib (credit (.login username password clientKey) w
      (acceptLogin s user key clientKey now w.tick)).2 := by
  unfold acceptLogin
  dsimp only
  split
  · exact Same.sound ⟨rfl, rfl, rfl⟩ h
  next sessions hinsert =>
  have hdrawn : Sound s.lib w.tick.draw.draw := Same.sound ⟨rfl, rfl, rfl⟩ h
  dsimp only [credit, Op.deed]
  rw [huser]
  exact sound_openSession hdrawn hinsert huser rfl henabled hverified

theorem sound_login (username password clientKey : String) (h : Sound s.lib w) :
    Sound s.lib (credit (.login username password clientKey) w
      (login s username password clientKey w)).2 := by
  have hsame : ∀ v, Same w v → Sound s.lib v := fun v hv => hv.sound h
  unfold login
  dsimp only
  split
  · exact hsame _ ⟨rfl, rfl, rfl⟩
  split
  · split
    · exact hsame _ ⟨rfl, rfl, rfl⟩
    split
    · exact hsame _ ⟨rfl, rfl, rfl⟩
    · exact hsame _ ⟨rfl, rfl, rfl⟩
  next user hfind =>
  split
  · exact hsame _ ⟨rfl, rfl, rfl⟩
  next verified hverify =>
  split
  · next hgood =>
    rw [Bool.and_eq_true] at hgood
    obtain ⟨henabled, rfl⟩ := hgood
    have huser : w.users.find user.id = some user :=
      mem_iff_find.mp (List.mem_of_find?_eq_some hfind)
    exact sound_acceptLogin h huser henabled hverify
  · exact hsame _ ⟨rfl, rfl, rfl⟩

theorem sound_replacePassword (userID sessionHash currentHash newHash : String) (h : Sound lib w) :
    Sound lib (credit (.replacePassword userID sessionHash currentHash newHash) w
      (replacePassword userID sessionHash currentHash newHash w)).2 := by
  have htick : Sound lib w.tick := Same.sound ⟨rfl, rfl, rfl⟩ h
  unfold replacePassword
  split
  · exact htick
  split
  · exact sound_commitChange htick
  · exact htick

section
variable (actor : Principal)

theorem sound_resetPassword (userID newHash : String) (h : Sound lib w) :
    Sound lib (credit (.resetPassword actor userID newHash) w
      (resetPassword actor userID newHash w)).2 := by
  have htick : Sound lib w.tick := Same.sound ⟨rfl, rfl, rfl⟩ h
  unfold resetPassword
  split
  · exact htick
  · exact sound_commitReset (Same.sound ⟨rfl, rfl, rfl⟩ htick)

theorem readUserForUpdate_enabled {hash : String} {current : User}
    (h : readUserForUpdate userID now w = .ok (current, hash)) :
    ∃ user, w.users.find userID = some user ∧ user.enabled = current.enabled := by
  unfold readUserForUpdate at h
  split at h
  · cases h
  next user huser =>
  split at h
  · cases h
    exact ⟨user, huser, rfl⟩
  · cases h

theorem sound_updateUser (userID : String) (input : UpdateUserInput)
    (h : Sound lib w) :
    Sound lib (credit (.updateUser actor userID input) w (updateUser actor userID input w)).2 := by
  have htick : Sound lib w.tick := Same.sound ⟨rfl, rfl, rfl⟩ h
  have htick2 : Sound lib w.tick.tick := Same.sound ⟨rfl, rfl, rfl⟩ h
  unfold updateUser
  split
  · exact htick
  next current hash hread =>
  split
  · exact htick
  split
  · exact htick
  split
  · exact htick
  split
  · exact htick2
  · obtain ⟨user, huser, henabled⟩ := readUserForUpdate_enabled hread
    dsimp only [credit, Op.deed]
    rw [huser, Option.any_some, henabled]
    refine sound_commitUpdate htick2 fun other hother => ?_
    rw [← henabled, some.inj (hother.symm.trans huser)]

theorem sound_deleteUser (userID : String) (h : Sound lib w) :
    Sound lib (credit (.deleteUser actor userID) w (deleteUser actor userID w)).2 := by
  have htick : Sound lib w.tick := Same.sound ⟨rfl, rfl, rfl⟩ h
  unfold deleteUser
  split
  · exact htick
  split
  · exact htick
  · exact sound_commitDelete (Same.sound ⟨rfl, rfl, rfl⟩ htick)

theorem sound_createUser (username hash userID : String) (now : Int)
    (h : Sound lib w) : Sound lib (createUser actor username hash userID now w).2 := by
  unfold createUser
  dsimp only
  split
  · exact h
  · next v hinsert => exact sound_insertUser h hinsert

theorem sound_createBootstrapAdmin (hash : String) (h : Sound lib w) :
    Sound lib (createBootstrapAdmin hash w).2 := by
  unfold createBootstrapAdmin
  split
  · exact h
  dsimp only
  split
  · exact h
  next v hinsert =>
  have hv : Sound lib v := sound_insertUser h hinsert
  exact Same.sound ⟨rfl, rfl, rfl⟩ hv

theorem sound_revoke (idHash : String) (h : Sound lib w) :
    Sound lib (credit (.revoke idHash) w (revoke idHash w)).2 := by
  unfold revoke
  split
  · exact h
  · exact Same.sound ⟨rfl, rfl, rfl⟩ (sound_revokeOne w.now idHash h)

theorem sound_revokeSession (sessionID : String) (h : Sound lib w) :
    Sound lib (credit (.revokeSession actor sessionID) w (revokeSession actor sessionID w)).2 := by
  unfold revokeSession
  split
  · exact h
  · exact Same.sound ⟨rfl, rfl, rfl⟩ (sound_revokeOne w.now sessionID h)

end

/-- **Every call keeps the invariant.** -/
theorem sound_exec (o : Op) (f : Fate) (w : World) (h : Sound s.lib w) :
    Sound s.lib (exec s o f w).2 := by
  cases o with
  | now => exact Same.sound ⟨rfl, rfl, rfl⟩ h
  | random => exact Fate.deliver_keeps h (Same.sound ⟨rfl, rfl, rfl⟩ h)
  | login username password clientKey =>
    exact Fate.deliver_keeps h (sound_login username password clientKey h)
  | findSession | readPasswordHash => exact Fate.deliver_keeps h h
  | touch idHash => exact Fate.deliver_keeps h (sound_touch idHash h)
  | replacePassword userID sessionHash currentHash newHash =>
    exact Fate.deliver_keeps h (sound_replacePassword userID sessionHash currentHash newHash h)
  | resetPassword actor userID newHash =>
    exact Fate.deliver_keeps h (sound_resetPassword actor userID newHash h)
  | updateUser actor userID input =>
    exact Fate.deliver_keeps h (sound_updateUser actor userID input h)
  | deleteUser actor userID => exact Fate.deliver_keeps h (sound_deleteUser actor userID h)
  | createUser actor username hash userID now =>
    exact Fate.deliver_keeps h (sound_createUser actor username hash userID now h)
  | createBootstrapAdmin hash => exact Fate.deliver_keeps h (sound_createBootstrapAdmin hash h)
  | revoke idHash => exact Fate.deliver_keeps h (sound_revoke idHash h)
  | revokeSession actor sessionID =>
  exact Fate.deliver_keeps h (sound_revokeSession actor sessionID h)

/-! ## authentication -/

/-- the session that the token stands for when it is looked up: it belongs to an enabled user, is
not revoked and is valid -/
def Accepted (s : Service) (w : World) (token : String) (p : Principal) : Prop :=
  ∃ session user, w.sessions.find (s.lib.digestHex token) = some session ∧
    w.users.find session.userID = some user ∧ p.sessionHash = session.idHash ∧
    p.userID = user.id ∧ p.expiresAt = session.expiresAt ∧ user.enabled = true ∧
    session.revokedAt = none ∧ Earned s.lib w.history user session.idHash

theorem findSession_accepted {token : String} {p : Principal} (h : Sound s.lib w)
    (hfind : findSession (s.lib.digestHex token) w = .ok p) : Accepted s w token p := by
  unfold findSession at hfind
  cases hsession : w.sessions.find (s.lib.digestHex token) with
  | none => rw [hsession] at hfind; cases hfind
  | some session =>
  rw [hsession] at hfind
  obtain ⟨user, huser, hvalid⟩ := h _ session hsession
  dsimp only at hfind
  rw [huser] at hfind
  dsimp only at hfind
  split at hfind
  · next hgood =>
    cases hfind
    exact ⟨session, user, hsession, huser, rfl, rfl, rfl, hgood.2, hgood.1, (hvalid hgood.1).2⟩
  · cases hfind

theorem deliver_ok {α : Type} {f : Fate} {e : Fault} {r : Except Fault α} {a : α}
    (h : (f.deliver e (r, w) w).1 = .ok a) : r = .ok a := by
  cases f with
  | ok => exact h
  | fail => cases h
  | late => cases h

theorem authenticate_moments {token : String} {p : Principal} {ms : List (World × Fate)}
    (h : drive (exec s) (proc s (.authenticate token)) ms = .done (.ok (.principal p))) :
    ∃ asked read rest, ms = asked :: read :: rest ∧
      findSession (s.lib.digestHex token) asked.1 = .ok p ∧ read.1.now < p.expiresAt := by
  have hfailed : ∀ e ms, drive (exec s) (.done (Except.error e) : Act Reply) ms ≠
      .done (.ok (.principal p)) := by
    intro e ms he
    simp at he
  unfold proc Service.authenticate reply at h
  dsimp only at h
  split at h
  · exact (hfailed _ _ h).elim
  cases ms with
  | nil => cases h
  | cons asked ms =>
  rw [Proc.call_bind, drive] at h
  cases hfind : (exec s (.findSession (s.lib.digestHex token)) asked.2 asked.1).1 with
  | error e =>
    rw [hfind] at h
    exact (hfailed _ _ h).elim
  | ok q =>
  rw [hfind] at h
  have hrow : findSession (s.lib.digestHex token) asked.1 = .ok q := deliver_ok hfind
  dsimp only at h
  unfold parseTime at h
  split at h
  · exact (hfailed _ _ h).elim
  next expires hparse =>
  obtain rfl : q.expiresAt = expires := by
    split at hparse
    · exact some.inj hparse
    · cases hparse
  cases ms with
  | nil => cases h
  | cons read ms =>
  rw [Proc.call_bind, drive] at h
  split at h
  · next hlater =>
    cases ms with
    | nil => cases h
    | cons touched ms =>
    rw [Proc.call_bind, drive, Proc.done_bind, drive_done] at h
    obtain rfl : q = p := by simpa [Except.map] using h
    exact ⟨asked, read, _, rfl, hrow, hlater⟩
  · exact (hfailed _ _ h).elim

theorem sound_fresh (lib : Library) (clock : Nat → Int) (chance : Nat → String) :
    Sound lib (World.fresh clock chance) := by
  intro k session hfind
  cases hfind

def sampleService : Service where
  lib :=
    { digestHex := id
      toLower := id
      idKey := fun password _ _ => password
      encode := fun _ _ key => key
      decode := fun key => some (defaultArgon2Parameters, "", key) }
  parameters := defaultArgon2Parameters
  sessionLifetime := 100

def sampleAdmin : Principal := ⟨"admin", "admin", true, 102, "2", "1"⟩

def sampleOperator : Principal := ⟨"user-4", "operator", true, 0, "6", "5"⟩

/-- the administrator resets the operator's password while the operator is changing it; the session
of before is refused, and the operator logs in again -/
def sampleBeats : List (Beat Request) :=
  [.start (.createBootstrapAdmin "correct horse battery"), .step 0 .ok, .step 0 .ok,
    .start (.login "admin" "correct horse battery" "client"), .step 1 .ok,
    .start (.createUser sampleAdmin "operator" "staple of the operator"),
    .step 2 .ok, .step 2 .ok, .step 2 .ok, .step 2 .ok,
    .start (.login "operator" "staple of the operator" "client"), .step 3 .ok,
    .start (.changePassword sampleOperator "staple of the operator" "chosen by the operator"),
    .step 4 .ok,
    .start (.resetPassword sampleAdmin "user-4" "chosen by the admin"), .step 5 .ok, .step 5 .ok,
    .step 4 .ok, .step 4 .ok, .start (.authenticate "5"), .step 6 .ok,
    .start (.login "operator" "chosen by the admin" "client"), .step 7 .ok,
    .start (.authenticate "9"), .step 8 .ok, .step 8 .ok, .step 8 .ok]

def samplePool : Pool Op Op.Ret (Except Fault Reply) World :=
  ⟨World.fresh (fun n => n) toString, []⟩

def samplePrincipal : Principal := ⟨"user-4", "operator", true, 108, "10", "9"⟩

end GatewayVpn.Auth

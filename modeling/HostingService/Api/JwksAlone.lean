import HostingService.Api.JwksThreads

/-! A lookup of a signing key that no other thread interferes with: with its retries and its
clock it is the sequential lookup of the JWKS client. -/

namespace HostingService

open Program Text

section
variable {Key : Type}

def KeyLookupError.exception : KeyLookupError → TokenException
  | .fetch error => error.exception
  | .token error => error
  | .keyError kid => ⟨.other, lit "KeyError", kid⟩

/-- What the attempts at the document come to while the service answers alike. -/
def JwksAnswer.fetched : JwksAnswer Key → Except FetchError (List (JwkEntry Key))
  | .document entries => .ok entries
  | .requestException _ error => .error (.requestException error)
  | .other error => .error (.other error)

/-- Only time has passed, and none before a document came. -/
structure JwksWorld.Waited (before after : JwksWorld Key) : Prop where
  client : after.client = before.client
  answer : after.answer = before.answer
  now : ∀ entries, before.answer = .document entries → after.monotonic = before.monotonic

theorem JwksWorld.Waited.refl (world : JwksWorld Key) : world.Waited world := ⟨rfl, rfl, fun _ _ => rfl⟩

theorem JwksWorld.Waited.trans {first second third : JwksWorld Key} (left : first.Waited second)
    (right : second.Waited third) : first.Waited third where
  client := right.client.trans left.client
  answer := right.answer.trans left.answer
  now entries answered :=
    (right.now entries (left.answer.trans answered)).trans (left.now entries answered)

theorem run_fetchDocument (forced : Bool) (left attempt : Nat) (world : JwksWorld Key) :
    let ran := (fetchDocument forced left attempt).run JwksCall.handle world
    ran.1 = world.answer.fetched.mapError .fetch ∧ world.Waited ran.2 := by
  induction left generalizing attempt world with
  | zero =>
    simp only [fetchDocument, Prog.run_bind, Prog.run_perform, JwksCall.handle]
    rcases world.answer with entries | ⟨status, error⟩ | error <;> exact ⟨rfl, .refl world⟩
  | succ left ih =>
    simp only [fetchDocument, Prog.run_bind, Prog.run_perform, JwksCall.handle]
    rcases answered : world.answer with entries | ⟨status, error⟩ | error
    · exact ⟨rfl, .refl world⟩
    · rcases retried : isRetryable status with _ | _
      · simp only [attempted, retried]
        exact ⟨rfl, .refl world⟩
      · simp only [attempted, retried, if_true, Prog.run_bind, Prog.run_perform, JwksCall.handle]
        obtain ⟨ended, waited⟩ := ih (attempt + 1)
          { world with monotonic := world.monotonic + max 0 ((attempt : Rat) / 4) }
        refine ⟨ended.trans (by rw [answered]), ⟨waited.client, waited.answer, ?_⟩⟩
        intro entries document
        rw [answered] at document
        cases document
    · exact ⟨rfl, .refl world⟩

theorem run_isFresh (force : Bool) (ttl : Rat) (world : JwksWorld Key) :
    (isFresh force ttl).run JwksCall.handle world =
      (.ok (!force && !world.client.keys.isEmpty &&
        decide (world.monotonic - world.client.fetchedAt < ttl)), world) := by
  simp only [isFresh, Prog.run_bind, Prog.run_perform, JwksCall.handle]
  cases force with
  | true => rfl
  | false =>
    simp only [Bool.false_eq_true, if_false, Prog.run_bind, Prog.run_perform, JwksCall.handle]
    rcases nothing : world.client.keys with _ | ⟨key, keys⟩
    · rfl
    · rfl

theorem run_applyDocument (document : List (JwkEntry Key)) (forced : Bool) (world : JwksWorld Key) :
    let ran := (applyDocument document forced).run JwksCall.handle world
    ran.1 = .ok () ∧ ran.2.client = world.client.applyDocument document world.monotonic ∧
      ran.2.answer = world.answer ∧ ran.2.monotonic = world.monotonic :=
  ⟨rfl, rfl, rfl, rfl⟩

/-- How a refresh that nobody interferes with ends. -/
structure Refreshed (world after : JwksWorld Key) (result : Except KeyLookupError Unit)
    (refreshed : Except TokenException (JwksClient Key)) : Prop where
  ended : (result.mapError KeyLookupError.exception).map (fun _ => after.client) = refreshed
  kept : result ≠ .ok () → after.client = world.client
  answer : after.answer = world.answer
  now : (∀ document, world.client.staticDocument = some document →
      after.monotonic = world.monotonic) ∧
    ∀ entries, world.answer = .document entries → after.monotonic = world.monotonic

theorem run_fetchOrKeep (settings : JwksSettings Key) (force : Bool) (world : JwksWorld Key) :
    let ran := (fetchOrKeep settings force).run JwksCall.handle world
    ran.1 = (match world.answer.fetched with
      | .ok document => .ok (some document)
      | .error (.requestException error) =>
        if world.client.keys.isEmpty then .error (.fetch (.requestException error)) else .ok none
      | .error (.other error) => .error (.fetch (.other error))) ∧ world.Waited ran.2 := by
  obtain ⟨fetched, waited⟩ := run_fetchDocument force settings.retries 1 world
  simp only [fetchOrKeep, Prog.run_tryCatch, Prog.run_bind]
  rcases ran : (fetchDocument force settings.retries 1).run JwksCall.handle world with ⟨result, after⟩
  rw [ran] at fetched waited
  obtain rfl := fetched
  rcases world.answer with entries | ⟨status, error⟩ | error
  · exact ⟨rfl, waited⟩
  · simp only [JwksAnswer.fetched, Except.mapError, Prog.run_bind, Prog.run_perform, JwksCall.handle]
    rw [show after.client.keys = world.client.keys from congrArg _ waited.client]
    rcases world.client.keys with _ | ⟨key, keys⟩
    · exact ⟨rfl, waited⟩
    · exact ⟨rfl, waited⟩
  · exact ⟨rfl, waited⟩

theorem run_refreshLocked {settings : JwksSettings Key} {world : JwksWorld Key}
    (ttl : settings.ttl = world.client.ttl) (dynamic : world.client.staticDocument = none)
    (force : Bool) :
    let ran := (refreshLocked settings force).run JwksCall.handle world
    Refreshed world ran.2 ran.1
      (world.client.refresh force world.monotonic world.answer.fetched) := by
  simp only [refreshLocked, Prog.run_bind, run_isFresh, JwksClient.refresh, dynamic, ttl]
  split
  · rename_i fresh
    simp only [fresh, Bool.not_true, Prog.when_false, Prog.run_ret]
    exact ⟨rfl, fun _ => rfl, rfl, fun _ _ => rfl, fun _ _ => rfl⟩
  · rename_i stale
    simp only [Bool.eq_false_iff.mpr stale, Bool.not_false, Prog.when_true, Prog.run_bind]
    obtain ⟨fetched, waited⟩ := run_fetchOrKeep settings force world
    rcases ran : (fetchOrKeep settings force).run JwksCall.handle world with ⟨result, after⟩
    rw [ran] at fetched waited
    obtain rfl := fetched
    have static (document : List (JwkEntry Key)) {P : Prop}
        (some : world.client.staticDocument = some document) : P := by
      rw [dynamic] at some
      cases some
    rcases answered : world.answer with entries | ⟨status, error⟩ | error
    · have now := waited.now entries answered
      obtain ⟨ended, loaded, answer, clock⟩ := run_applyDocument entries force after
      simp only [JwksAnswer.fetched]
      refine ⟨?_, ?_, answer.trans waited.answer, fun d some => static d some, fun _ _ => clock.trans now⟩
      · rw [ended, loaded, waited.client, now]
        rfl
      · exact fun failed => absurd ended failed
    · have later (entries : List (JwkEntry Key)) {P : Prop}
          (document : world.answer = .document entries) : P := by
        rw [answered] at document
        cases document
      simp only [JwksAnswer.fetched]
      cases nothing : world.client.keys.isEmpty with
      | true =>
        exact ⟨rfl, fun _ => waited.client, waited.answer, fun d some => static d some,
          fun entries document => later entries document⟩
      | false =>
        exact ⟨congrArg _ waited.client, fun _ => waited.client, waited.answer,
          fun d some => static d some, fun entries document => later entries document⟩
    · simp only [JwksAnswer.fetched]
      refine ⟨rfl, fun _ => waited.client, waited.answer, fun d some => static d some, ?_⟩
      intro entries document
      rw [answered] at document
      cases document

theorem run_refreshKeys {settings : JwksSettings Key} {world : JwksWorld Key}
    (ttl : settings.ttl = world.client.ttl)
    (static : settings.staticDocument = world.client.staticDocument) (force : Bool) :
    let ran := (refreshKeys settings force).run JwksCall.handle world
    Refreshed world ran.2 ran.1
      (world.client.refresh force world.monotonic world.answer.fetched) := by
  rcases stored : world.client.staticDocument with _ | document
  · simp only [refreshKeys, static, stored, Prog.run_bind, run_isFresh]
    cases fresh : !force && !world.client.keys.isEmpty &&
        decide (world.monotonic - world.client.fetchedAt < settings.ttl) with
    | true =>
      rw [ttl] at fresh
      simp only [JwksClient.refresh, stored, fresh, if_true]
      exact ⟨rfl, fun _ => rfl, rfl, fun _ _ => rfl, fun _ _ => rfl⟩
    | false =>
      simp only [Bool.not_false, Prog.when_true, Prog.run_bind, Prog.run_perform, JwksCall.handle,
        Prog.run_tryFinally, Prog.run_ofExcept]
      have held : settings.ttl = ({ world with locked := true } : JwksWorld Key).client.ttl := ttl
      obtain ⟨ended, kept, answer, now⟩ := run_refreshLocked held stored force
      exact ⟨ended, kept, answer, now⟩
  · simp only [refreshKeys, static, stored, Prog.run_bind, Prog.run_perform, JwksCall.handle,
      JwksClient.refresh]
    cases nothing : world.client.keys.isEmpty with
    | true =>
      obtain ⟨ended, loaded, answer, clock⟩ := run_applyDocument document false world
      simp only [Prog.when_true, if_true]
      refine ⟨?_, fun failed => absurd ended failed, answer, fun _ _ => clock, fun _ _ => clock⟩
      rw [ended, loaded]
      rfl
    | false => exact ⟨rfl, fun _ => rfl, rfl, fun _ _ => rfl, fun _ _ => rfl⟩

theorem run_lookupSigningKey (kid : PyStr) (world : JwksWorld Key) :
    (lookupSigningKey kid).run JwksCall.handle world = (.ok (world.client.key kid), world) := by
  simp only [lookupSigningKey, Prog.run_bind, Prog.run_perform, JwksCall.handle]
  rcases found : findKey world.client.keys kid with _ | key
  · exact congrArg (fun result => (Except.ok result, world)) found.symm
  · simp only [Option.isNone_some, Bool.false_eq_true, if_false, Prog.run_bind, Prog.run_perform,
      JwksCall.handle, found]
    exact congrArg (fun result => (Except.ok result, world)) found.symm

theorem run_unmatchedKey (header : JwtHeader) (world : JwksWorld Key) :
    let ran := (unmatchedKey header).run JwksCall.handle world
    ran.1.mapError KeyLookupError.exception = world.client.unmatched header ∧ ran.2 = world := by
  simp only [unmatchedKey, Prog.run_bind, Prog.run_perform, JwksCall.handle, JwksClient.unmatched]
  cases world.client.keys.isEmpty with
  | true => exact ⟨rfl, rfl⟩
  | false => exact ⟨rfl, rfl⟩

theorem refresh_settings {client refreshed : JwksClient Key} {force : Bool} {now : Rat}
    {answer : Except FetchError (List (JwkEntry Key))}
    (done : client.refresh force now answer = .ok refreshed) :
    refreshed.ttl = client.ttl ∧ refreshed.staticDocument = client.staticDocument := by
  unfold JwksClient.refresh at done
  split at done
  · split at done
    · obtain rfl := Except.ok.inj done
      exact ⟨rfl, rfl⟩
    · obtain rfl := Except.ok.inj done
      exact ⟨rfl, rfl⟩
  · split at done
    · obtain rfl := Except.ok.inj done
      exact ⟨rfl, rfl⟩
    · split at done
      · obtain rfl := Except.ok.inj done
        exact ⟨rfl, rfl⟩
      · split at done
        · cases done
        · obtain rfl := Except.ok.inj done
          exact ⟨rfl, rfl⟩
      · cases done

/-- A forced refresh looks at the clock only to load a document. -/
theorem refresh_forced_clock {client : JwksClient Key} {now later : Rat} {answer : JwksAnswer Key}
    (static : ∀ document, client.staticDocument = some document → later = now)
    (loaded : ∀ entries, answer = .document entries → later = now) :
    client.refresh true later answer.fetched = client.refresh true now answer.fetched := by
  rcases answer with entries | ⟨status, error⟩ | error
  · rw [loaded entries rfl]
  all_goals
    rcases stored : client.staticDocument with _ | document
    · simp only [JwksClient.refresh, stored, JwksAnswer.fetched, Bool.not_true, Bool.false_and]
    · rw [static document stored]

/-- A lookup that nobody interferes with is the sequential one, on a service that keeps to its
answer. -/
theorem getSigningKey_alone (jwt : PyJwt Key) {settings : JwksSettings Key} {world : JwksWorld Key}
    (ttl : settings.ttl = world.client.ttl)
    (static : settings.staticDocument = world.client.staticDocument) (raw : PyStr) :
    let ran := (getSigningKey jwt settings raw).run JwksCall.handle world
    (ran.1.mapError KeyLookupError.exception, ran.2.client) =
      world.client.getSigningKey jwt raw world.monotonic fun _ => world.answer.fetched := by
  unfold getSigningKey JwksClient.getSigningKey
  rcases jwt.getUnverifiedHeader raw with error | header
  · rfl
  simp only [signingKey, Prog.run_bind]
  obtain ⟨ended, kept, answer, now⟩ := run_refreshKeys ttl static false
  rcases ran : (refreshKeys settings false).run JwksCall.handle world with ⟨result, after⟩
  rw [ran] at ended kept answer now
  rw [← ended]
  rcases result with error | value
  · exact congrArg (Prod.mk _) (kept (by simp))
  simp only [Except.mapError, Except.map]
  rcases named : header.kid.filter (· ≠ []) with _ | kid
  · obtain ⟨same, still⟩ := run_unmatchedKey header after
    exact Prod.ext same (congrArg JwksWorld.client still)
  · simp only [Prog.run_bind, run_lookupSigningKey]
    rcases found : after.client.key kid with _ | key
    · obtain ⟨sameTtl, sameStatic⟩ := refresh_settings ended.symm
      obtain ⟨again, kept, _, _⟩ :=
        run_refreshKeys (ttl.trans sameTtl.symm) (static.trans sameStatic.symm) true
      have clock : after.client.refresh true after.monotonic after.answer.fetched =
          after.client.refresh true world.monotonic world.answer.fetched := by
        rw [answer]
        exact refresh_forced_clock (fun d some => now.1 d (sameStatic ▸ some)) now.2
      rw [clock] at again
      simp only [Prog.run_bind]
      rcases ran : (refreshKeys settings true).run JwksCall.handle after with ⟨result, rotated⟩
      rw [ran] at again kept
      rw [← again]
      rcases result with error | value
      · exact congrArg (Prod.mk _) (kept (by simp))
      simp only [Except.mapError, Except.map, run_lookupSigningKey]
      rcases second : rotated.client.key kid with _ | key
      · obtain ⟨same, still⟩ := run_unmatchedKey header rotated
        exact Prod.ext same (congrArg JwksWorld.client still)
      · rfl
    · rfl

end

def pinnedRead (raw : PyStr) : Option SignedToken :=
  if raw = lit "token" then some ⟨⟨some (lit "k1"), lit "'k1'"⟩, [], lit "key", lit "RS256"⟩ else none

def jwksSettings : JwksSettings PyStr := ⟨900, 2, none⟩

/-- A new client, and a service that answers with one key. -/
def firstCache : JwksWorld PyStr where
  client := ⟨900, none, 0, [], []⟩
  locked := false
  monotonic := 5
  answer := .document [⟨some (lit "k1"), some (lit "key")⟩]
  loads := []

theorem getSigningKey_alone_pinned :
    let ran := (getSigningKey (signedJwt pinnedRead) jwksSettings (lit "token")).run
      JwksCall.handle firstCache
    (ran.1.mapError KeyLookupError.exception, ran.2.client) =
      firstCache.client.getSigningKey (signedJwt pinnedRead) (lit "token") 5
        fun _ => .ok [⟨some (lit "k1"), some (lit "key")⟩] :=
  getSigningKey_alone (signedJwt pinnedRead) rfl rfl (lit "token")

end HostingService

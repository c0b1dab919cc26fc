import HostingService.Api.Jwks
import HostingService.Program.Sections
import Mathlib.Algebra.Order.Ring.Unbundled.Rat
import Mathlib.Data.List.Chain

/-! The JWKS client under the threads of one worker process: the check of the cache before and
under its lock, the fetch with its retries, and the lookup of a key beside the loads of other
threads. -/

namespace HostingService

open Program Text

/-! ### What the threads share -/

/-- What the identity service answers to one request. -/
inductive JwksAnswer (Key : Type) where
  | document (entries : List (JwkEntry Key))
  /-- A `requests.RequestException`, with the status of its response where it has one. -/
  | requestException (status : Option Nat) (error : TokenException)
  | other (error : TokenException)

/-- A document that became the cached one: when, and whether a token with a new `kid` forced it. -/
structure JwksLoad (Key : Type) where
  document : List (JwkEntry Key)
  loadedAt : Rat
  forced : Bool

/-- The keys that `_apply_document` reads out of a document. -/
def documentKeys {Key : Type} (document : List (JwkEntry Key)) : List (PyStr × Key) :=
  (JwksClient.applyDocument ⟨0, none, 0, [], []⟩ document 0).keys

/-- The client, its lock and the clock; `loads` holds what was loaded, the newest first. -/
structure JwksWorld (Key : Type) where
  client : JwksClient Key
  locked : Bool
  monotonic : Rat
  answer : JwksAnswer Key
  loads : List (JwksLoad Key)

/-- Each read and each assignment of an attribute is a call. -/
inductive JwksCall (Key : Type) : Type → Type where
  | keys : JwksCall Key (List (PyStr × Key))
  | fetchedAt : JwksCall Key Rat
  | monotonic : JwksCall Key Rat
  | acquire : JwksCall Key Unit
  | release : JwksCall Key Unit
  | get (forced : Bool) : JwksCall Key (JwksAnswer Key)
  | sleep (seconds : Rat) : JwksCall Key Unit
  | setRaw (document : List (JwkEntry Key)) : JwksCall Key Unit
  | setKeys (document : List (JwkEntry Key)) : JwksCall Key Unit
  | setFetchedAt (load : JwksLoad Key) : JwksCall Key Unit

inductive KeyLookupError where
  | fetch (error : FetchError)
  | token (error : TokenException)
  /-- `self._keys[kid]` -/
  | keyError (kid : PyStr)

section
variable {Key : Type}

def JwksCall.handle : Handler (JwksCall Key) KeyLookupError (JwksWorld Key)
  | _, .keys, world => (.ok world.client.keys, world)
  | _, .fetchedAt, world => (.ok world.client.fetchedAt, world)
  | _, .monotonic, world => (.ok world.monotonic, world)
  | _, .acquire, world => (.ok (), { world with locked := true })
  | _, .release, world => (.ok (), { world with locked := false })
  | _, .get _, world => (.ok world.answer, world)
  | _, .sleep seconds, world => (.ok (), { world with monotonic := world.monotonic + max 0 seconds })
  | _, .setRaw document, world => (.ok (), { world with client := { world.client with raw := document } })
  | _, .setKeys document, world =>
    (.ok (), { world with client := { world.client with keys := documentKeys document } })
  | _, .setFetchedAt load, world =>
    (.ok (), { world with
      client := { world.client with fetchedAt := load.loadedAt }, loads := load :: world.loads })

/-- A thread waits for the lock until it is free. -/
def JwksCall.waits {β : Type} : JwksCall Key β → JwksWorld Key → Bool
  | .acquire, world => world.locked
  | _, _ => false

def JwksCall.permitted (β : Type) (op : JwksCall Key β) (world : JwksWorld Key) : Prop :=
  op.waits world = false

/-- Time passes, and the identity service comes to answer otherwise. -/
inductive JwksWorld.Outside : JwksWorld Key → JwksWorld Key → Prop where
  | passes (world : JwksWorld Key) (later : Rat) (forward : world.monotonic ≤ later) :
      Outside world { world with monotonic := later }
  | answers (world : JwksWorld Key) (answer : JwksAnswer Key) : Outside world { world with answer }

/-! ### `JWKSClient` -/

abbrev JwksProgram (Key : Type) := Prog (JwksCall Key) KeyLookupError

structure JwksSettings (Key : Type) where
  ttl : Rat
  retries : Nat
  staticDocument : Option (List (JwkEntry Key))

/-- `_is_retryable` -/
def isRetryable : Option Nat → Bool
  | none => true
  | some status => status ≥ 500 || status ∈ [408, 429]

/-- What one attempt of `_fetch_document` comes to; `again` is there while attempts are left. -/
def attempted (again : Option (JwksProgram Key (List (JwkEntry Key)))) :
    JwksAnswer Key → JwksProgram Key (List (JwkEntry Key))
  | .document entries => .ret entries
  | .other error => .raise (.fetch (.other error))
  | .requestException status error =>
    match again with
    | some again => if isRetryable status then again else .raise (.fetch (.requestException error))
    | none => .raise (.fetch (.requestException error))

/-- `_fetch_document`, with the attempts that are left after this one. -/
def fetchDocument (forced : Bool) : Nat → Nat → JwksProgram Key (List (JwkEntry Key))
  | 0, _ => .perform (.get forced) >>= attempted none
  | left + 1, attempt => .perform (.get forced) >>= attempted
      (some (.perform (.sleep (attempt / 4)) >>= fun _ => fetchDocument forced left (attempt + 1)))

/-- `_apply_document` -/
def applyDocument (document : List (JwkEntry Key)) (forced : Bool) : JwksProgram Key Unit :=
  .perform (.setRaw document) >>= fun _ =>
  .perform (.setKeys document) >>= fun _ =>
  .perform .monotonic >>= fun loadedAt =>
  .perform (.setFetchedAt ⟨document, loadedAt, forced⟩)

/-- `not force and self._keys and (now - self._fetched_at) < self.ttl` -/
def isFresh (force : Bool) (ttl : Rat) : JwksProgram Key Bool :=
  .perform .monotonic >>= fun now =>
  if force then .ret false
  else .perform .keys >>= fun keys =>
    if keys.isEmpty then .ret false
    else .perform .fetchedAt >>= fun fetchedAt => .ret (now - fetchedAt < ttl)

/-- The document, or nothing when the request failed and there are keys to go on with. -/
def fetchOrKeep (settings : JwksSettings Key) (force : Bool) :
    JwksProgram Key (Option (List (JwkEntry Key))) :=
  (fetchDocument force settings.retries 1 >>= fun document => .ret (some document)).tryCatch fun
    | .fetch (.requestException error) => .perform .keys >>= fun keys =>
      if keys.isEmpty then .raise (.fetch (.requestException error)) else .ret none
    | error => .raise error

/-- What `_refresh` does under the lock. -/
def refreshLocked (settings : JwksSettings Key) (force : Bool) : JwksProgram Key Unit :=
  isFresh force settings.ttl >>= fun fresh =>
  .when (!fresh) (fetchOrKeep settings force >>= fun
    | none => .ret ()
    | some document => applyDocument document force)

/-- `_refresh` -/
def refreshKeys (settings : JwksSettings Key) (force : Bool) : JwksProgram Key Unit :=
  match settings.staticDocument with
  | some document => .perform .keys >>= fun keys => .when keys.isEmpty (applyDocument document false)
  | none => isFresh force settings.ttl >>= fun fresh =>
    .when (!fresh) (.perform .acquire >>= fun _ =>
      (refreshLocked settings force).tryFinally (.perform .release))

def findKey (keys : List (PyStr × Key)) (kid : PyStr) : Option Key :=
  (keys.find? (·.1 = kid)).map (·.2)

/-- `if kid in self._keys: return self._keys[kid]` -/
def lookupSigningKey (kid : PyStr) : JwksProgram Key (Option Key) :=
  .perform .keys >>= fun keys =>
  if (findKey keys kid).isNone then .ret none
  else .perform .keys >>= fun keys =>
    match findKey keys kid with
    | some key => .ret (some key)
    | none => .raise (.keyError kid)

/-- The end of `get_signing_key`: no key matches. -/
def unmatchedKey (header : JwtHeader) : JwksProgram Key (Option Key) :=
  .perform .keys >>= fun keys =>
  if keys.isEmpty then .ret none
  else .raise (.token
    { kind := .invalidToken
      name := lit "InvalidTokenError"
      message := lit "Unable to find a signing key that matches kid=" ++ header.kidRepr })

/-- `get_signing_key`, after the header was read. -/
def signingKey (settings : JwksSettings Key) (header : JwtHeader) : JwksProgram Key (Option Key) :=
  refreshKeys settings false >>= fun _ =>
  match header.kid.filter (· ≠ []) with
  | none => unmatchedKey header
  | some kid => lookupSigningKey kid >>= fun
    | some key => .ret (some key)
    | none => refreshKeys settings true >>= fun _ => lookupSigningKey kid >>= fun
      | some key => .ret (some key)
      | none => unmatchedKey header

/-- `get_signing_key` -/
def getSigningKey (jwt : PyJwt Key) (settings : JwksSettings Key) (raw : PyStr) :
    JwksProgram Key (Option Key) :=
  match jwt.getUnverifiedHeader raw with
  | .error error => .raise (.token error)
  | .ok header => signingKey settings header

/-! ### Crews -/

abbrev JwksCrew (Key : Type) := Crew (JwksCall Key) KeyLookupError (JwksWorld Key) PyStr (Option Key)

abbrev JwksThread (Key : Type) := Thread (JwksCall Key) KeyLookupError (JwksWorld Key) PyStr (Option Key)

/-- Any number of calls of `get_signing_key`, step by step in any order. -/
def JwksCrew.Reaches (jwt : PyJwt Key) (settings : JwksSettings Key) :
    JwksCrew Key → JwksCrew Key → Prop :=
  Crew.ReachesIf JwksCall.handle (getSigningKey jwt settings) JwksWorld.Outside
    fun crew β op => JwksCall.permitted β op crew.shared

/-! ### The section that the lock guards -/

def JwksLoad.keys (load : JwksLoad Key) : List (PyStr × Key) := documentKeys load.document

/-- The load was forced, or the one before it had given no key or had expired. -/
def JwksLoad.Spaced (ttl : Rat) (newer older : JwksLoad Key) : Prop :=
  older.loadedAt ≤ newer.loadedAt ∧
    (newer.forced = true ∨ older.keys = [] ∨ older.loadedAt + ttl ≤ newer.loadedAt)

namespace JwksWorld

/-- The newest load has given no key or has expired at the moment. -/
def DueAt (ttl : Rat) (world : JwksWorld Key) (moment : Rat) : Prop :=
  ∀ load ∈ world.loads.head?, load.keys = [] ∨ load.loadedAt + ttl ≤ moment

/-- The loads so far, of which none is from the future. -/
structure Spaced (ttl : Rat) (world : JwksWorld Key) : Prop where
  chain : world.loads.IsChain (JwksLoad.Spaced ttl)
  past : ∀ load ∈ world.loads.head?, load.loadedAt ≤ world.monotonic

/-- The cache holds the newest load. -/
structure Synced (ttl : Rat) (world : JwksWorld Key) : Prop extends world.Spaced ttl where
  latest : ∀ load ∈ world.loads.head?, world.client.keys = load.keys ∧
    world.client.fetchedAt = load.loadedAt
  blank : world.loads = [] → world.client.keys = []

end JwksWorld

/-- Where a thread is: outside of the section, after the lock was taken, after the clock was
read there, where a fetch is due, or between the assignments of `_apply_document`. -/
inductive JwksStage (Key : Type) where
  | outside
  | entered
  | timed (now : Rat)
  | due (forced : Bool)
  | writing (forced : Bool)
  | written (forced : Bool) (document : List (JwkEntry Key))
  | stamped (load : JwksLoad Key)

def JwksStage.inside : JwksStage Key → Bool
  | .outside => false
  | _ => true

/-- What a thread counts on. -/
def JwksStage.Holds (ttl : Rat) : JwksStage Key → JwksWorld Key → Prop
  | .outside, _ => True
  | .entered, world => world.Synced ttl
  | .timed now, world => world.Synced ttl ∧ now ≤ world.monotonic
  | .due forced, world => world.Synced ttl ∧ (forced = true ∨ world.DueAt ttl world.monotonic)
  | .writing forced, world => world.Spaced ttl ∧ (forced = true ∨ world.DueAt ttl world.monotonic)
  | .written forced document, world => world.Spaced ttl ∧ world.client.keys = documentKeys document ∧
      (forced = true ∨ world.DueAt ttl world.monotonic)
  | .stamped load, world => world.Spaced ttl ∧ world.client.keys = load.keys ∧
      load.loadedAt ≤ world.monotonic ∧
      (∀ older ∈ world.loads.head?, older.loadedAt ≤ load.loadedAt) ∧
      (load.forced = true ∨ world.DueAt ttl load.loadedAt)

/-- The moves of a thread. -/
inductive jwksMoves (ttl : Rat) :
    ∀ β, JwksCall Key β → JwksStage Key → JwksWorld Key → JwksStage Key → Prop where
  | keys (stage : JwksStage Key) (world : JwksWorld Key) : jwksMoves ttl _ .keys stage world stage
  | fetchedAt (stage : JwksStage Key) (world : JwksWorld Key) :
      jwksMoves ttl _ .fetchedAt stage world stage
  | monotonic (stage : JwksStage Key) (world : JwksWorld Key) :
      jwksMoves ttl _ .monotonic stage world stage
  | sleep (seconds : Rat) (stage : JwksStage Key) (world : JwksWorld Key) :
      jwksMoves ttl _ (.sleep seconds) stage world stage
  | acquire (world : JwksWorld Key) : jwksMoves ttl _ .acquire .outside world .entered
  | release (stage : JwksStage Key) (world : JwksWorld Key) (within : stage.inside = true)
      (synced : stage.Holds ttl world → world.Synced ttl) :
      jwksMoves ttl _ .release stage world .outside
  | timed (world : JwksWorld Key) : jwksMoves ttl _ .monotonic .entered world (.timed world.monotonic)
  | forced (world : JwksWorld Key) : jwksMoves ttl _ .monotonic .entered world (.due true)
  | empty (now : Rat) (world : JwksWorld Key) (nothing : world.client.keys = []) :
      jwksMoves ttl _ .keys (.timed now) world (.due false)
  | expired (now : Rat) (world : JwksWorld Key) (old : world.client.fetchedAt + ttl ≤ now) :
      jwksMoves ttl _ .fetchedAt (.timed now) world (.due false)
  | get (forced : Bool) (world : JwksWorld Key) :
      jwksMoves ttl _ (.get forced) (.due forced) world (.due forced)
  | setRaw (forced : Bool) (document : List (JwkEntry Key)) (world : JwksWorld Key) :
      jwksMoves ttl _ (.setRaw document) (.due forced) world (.writing forced)
  | setKeys (forced : Bool) (document : List (JwkEntry Key)) (world : JwksWorld Key) :
      jwksMoves ttl _ (.setKeys document) (.writing forced) world (.written forced document)
  | stamped (forced : Bool) (document : List (JwkEntry Key)) (world : JwksWorld Key) :
      jwksMoves ttl _ .monotonic (.written forced document) world
        (.stamped ⟨document, world.monotonic, forced⟩)
  | setFetchedAt (load : JwksLoad Key) (world : JwksWorld Key) :
      jwksMoves ttl _ (.setFetchedAt load) (.stamped load) world .entered

def jwksStaging (ttl : Rat) : Staging (JwksCall Key) (JwksWorld Key) (JwksStage Key) where
  holds := JwksStage.Holds ttl
  moves := jwksMoves ttl

def JwksCall.marks : ∀ β, JwksCall Key β → Option Bool
  | _, .acquire => some true
  | _, .release => some false
  | _, _ => none

def jwksLock (ttl : Rat) : Lock (JwksCall Key) (JwksWorld Key) (JwksStage Key) where
  marks := JwksCall.marks
  locked := JwksWorld.locked
  inside := JwksStage.inside
  resource := JwksWorld.Synced ttl

/-- A request is made under the lock: for a new `kid`, or where there is no key or the keys
have expired. -/
def RequestWarranted (ttl : Rat) : Entry (JwksCall Key) (JwksWorld Key) → Prop
  | ⟨.get forced, world⟩ => world.locked = true ∧ (forced = true ∨ world.client.keys = [] ∨
      world.client.fetchedAt + ttl ≤ world.monotonic)
  | _ => True

variable {ttl : Rat} {stage : JwksStage Key} {world after : JwksWorld Key}

theorem JwksWorld.Spaced.later (spaced : world.Spaced ttl) (loads : after.loads = world.loads)
    (forward : world.monotonic ≤ after.monotonic) : after.Spaced ttl where
  chain := loads ▸ spaced.chain
  past load newest := Rat.le_trans (spaced.past load (loads ▸ newest)) forward

theorem JwksWorld.Synced.later (synced : world.Synced ttl) (client : after.client = world.client)
    (loads : after.loads = world.loads) (forward : world.monotonic ≤ after.monotonic) :
    after.Synced ttl where
  toSpaced := synced.toSpaced.later loads forward
  latest load newest := client ▸ synced.latest load (loads ▸ newest)
  blank none := client ▸ synced.blank (loads ▸ none)

theorem JwksWorld.DueAt.later {moment after : Rat} (due : world.DueAt ttl moment)
    (forward : moment ≤ after) {other : JwksWorld Key} (loads : other.loads = world.loads) :
    other.DueAt ttl after :=
  fun load newest => (due load (loads ▸ newest)).imp_right fun old => Rat.le_trans old forward

/-- A cache that holds the newest load shows when a fetch is due. -/
theorem JwksWorld.Synced.due (synced : world.Synced ttl) {moment : Rat} :
    world.DueAt ttl moment ↔ world.client.keys = [] ∨ world.client.fetchedAt + ttl ≤ moment := by
  rcases loads : world.loads with _ | ⟨newest, older⟩
  · simp [JwksWorld.DueAt, loads, synced.blank loads]
  · obtain ⟨keys, fetched⟩ := synced.latest newest (by rw [loads]; rfl)
    simp [JwksWorld.DueAt, loads, keys, fetched]

/-- A stage counts on nothing that the passing of time takes away. -/
theorem JwksStage.Holds.later (holds : stage.Holds ttl world) (client : after.client = world.client)
    (loads : after.loads = world.loads) (forward : world.monotonic ≤ after.monotonic) :
    stage.Holds ttl after := by
  cases stage with
  | outside => trivial
  | entered => exact JwksWorld.Synced.later holds client loads forward
  | timed now => exact ⟨holds.1.later client loads forward, Rat.le_trans holds.2 forward⟩
  | due forced =>
    exact ⟨holds.1.later client loads forward, holds.2.imp_right fun due => due.later forward loads⟩
  | writing forced =>
    exact ⟨holds.1.later loads forward, holds.2.imp_right fun due => due.later forward loads⟩
  | written forced document =>
    obtain ⟨spaced, keys, due⟩ := holds
    exact ⟨spaced.later loads forward, client ▸ keys, due.imp_right fun due => due.later forward loads⟩
  | stamped load =>
    obtain ⟨spaced, keys, past, sorted, due⟩ := holds
    exact ⟨spaced.later loads forward, client ▸ keys, Rat.le_trans past forward,
      fun older newest => sorted older (loads ▸ newest),
      due.imp_right fun due => due.later Rat.le_refl loads⟩

/-- Outside of the section nothing is counted on. -/
theorem JwksStage.holds_outside (out : stage.inside = false) : stage.Holds ttl world := by
  cases stage with
  | outside => trivial
  | _ => cases out

/-- The load of a section that has assigned everything is the newest one. -/
theorem JwksStage.Holds.loaded {load : JwksLoad Key} (holds : (JwksStage.stamped load).Holds ttl world) :
    (JwksCall.handle _ (.setFetchedAt load) world).2.Synced ttl := by
  obtain ⟨spaced, keys, past, sorted, due⟩ := holds
  refine ⟨⟨?_, ?_⟩, ?_, ?_⟩
  · refine List.isChain_cons.mpr ⟨fun older newest => ⟨sorted older newest, ?_⟩, spaced.chain⟩
    exact due.imp_right fun due => due older newest
  · intro newest same
    obtain rfl := Option.some.inj same
    exact past
  · intro newest same
    obtain rfl := Option.some.inj same
    exact ⟨keys, rfl⟩
  · intro none
    cases none

/-- Each move does to the lock what its call says, from a stage that holds to one that does. -/
theorem jwksMoves_lock {β : Type} {op : JwksCall Key β} {stage next : JwksStage Key}
    (permitted : JwksCall.permitted β op world) (holds : stage.Holds ttl world)
    (held : stage.inside = true → world.locked = true)
    (kept : world.locked = false → world.Synced ttl)
    (moved : jwksMoves ttl β op stage world next) :
    (jwksLock ttl).Move op stage next world (JwksCall.handle β op world).2 ∧
      next.Holds ttl (JwksCall.handle β op world).2 ∧ RequestWarranted ttl ⟨op, world⟩ := by
  have reads (unmarked : JwksCall.marks β op = none)
      (same : (JwksCall.handle β op world).2.client = world.client)
      (loads : (JwksCall.handle β op world).2.loads = world.loads)
      (locked : (JwksCall.handle β op world).2.locked = world.locked)
      (forward : world.monotonic ≤ (JwksCall.handle β op world).2.monotonic)
      (passed : RequestWarranted ttl ⟨op, world⟩) :
      (jwksLock ttl).Move op stage stage world (JwksCall.handle β op world).2 ∧
        stage.Holds ttl (JwksCall.handle β op world).2 ∧ RequestWarranted ttl ⟨op, world⟩ := by
    refine ⟨?_, holds.later same loads forward, passed⟩
    rcases place : stage.inside with _ | _
    · exact .apart unmarked place place locked fun synced => synced.later same loads forward
    · exact .within unmarked place place locked
  cases moved with
  | keys => exact reads rfl rfl rfl rfl Rat.le_refl trivial
  | fetchedAt => exact reads rfl rfl rfl rfl Rat.le_refl trivial
  | monotonic => exact reads rfl rfl rfl rfl Rat.le_refl trivial
  | sleep seconds =>
    have forward : world.monotonic ≤ world.monotonic + max 0 seconds := by grind
    exact reads rfl rfl rfl rfl forward trivial
  | acquire =>
    have synced := kept permitted
    exact ⟨.enters rfl rfl rfl permitted rfl, synced.later rfl rfl Rat.le_refl, trivial⟩
  | release _ _ within synced =>
    have freed : ({ world with locked := false } : JwksWorld Key).Synced ttl :=
      (synced holds).later rfl rfl Rat.le_refl
    exact ⟨.leaves rfl within rfl rfl freed, trivial, trivial⟩
  | timed => exact ⟨.within rfl rfl rfl rfl, ⟨holds, Rat.le_refl⟩, trivial⟩
  | forced => exact ⟨.within rfl rfl rfl rfl, ⟨holds, .inl rfl⟩, trivial⟩
  | empty now _ nothing =>
    exact ⟨.within rfl rfl rfl rfl, ⟨holds.1, .inr (holds.1.due.mpr (.inl nothing))⟩, trivial⟩
  | expired now _ old =>
    have due := holds.1.due.mpr (.inr (Rat.le_trans old holds.2))
    exact ⟨.within rfl rfl rfl rfl, ⟨holds.1, .inr due⟩, trivial⟩
  | get forced =>
    obtain ⟨synced, due⟩ := holds
    exact ⟨.within rfl rfl rfl rfl, ⟨synced, due⟩, held rfl, due.imp_right synced.due.mp⟩
  | setRaw forced document =>
    obtain ⟨synced, due⟩ := holds
    exact ⟨.within rfl rfl rfl rfl, ⟨synced.toSpaced.later rfl Rat.le_refl, due⟩, trivial⟩
  | setKeys forced document =>
    obtain ⟨spaced, due⟩ := holds
    exact ⟨.within rfl rfl rfl rfl, ⟨spaced.later rfl Rat.le_refl, rfl, due⟩, trivial⟩
  | stamped forced document =>
    obtain ⟨spaced, keys, due⟩ := holds
    exact ⟨.within rfl rfl rfl rfl, ⟨spaced, keys, Rat.le_refl, spaced.past, due⟩, trivial⟩
  | setFetchedAt load => exact ⟨.within rfl rfl rfl rfl, holds.loaded, trivial⟩

/-- What the others count on outlasts a move, unless they are in the section with it. -/
theorem jwksMoves_others {β : Type} {op : JwksCall Key β} {stage next other : JwksStage Key}
    (moved : jwksMoves ttl β op stage world next) (holds : other.Holds ttl world)
    (apart : stage.inside = true → other.inside = false) :
    other.Holds ttl (JwksCall.handle β op world).2 := by
  cases moved with
  | setRaw | setKeys | setFetchedAt => exact JwksStage.holds_outside (apart rfl)
  | sleep seconds =>
    have forward : world.monotonic ≤ world.monotonic + max 0 seconds := by grind
    exact holds.later rfl rfl forward
  | _ => exact holds.later rfl rfl Rat.le_refl

/-! ### The stages of a lookup -/

theorem JwksCall.handle_answers {β : Type} (op : JwksCall Key β) (world : JwksWorld Key) :
    ∃ value, (JwksCall.handle β op world).1 = .ok value := by
  cases op <;> exact ⟨_, rfl⟩

variable {α β : Type} {ends : Except KeyLookupError α → JwksStage Key → Prop}

/-- One call, and what follows on its answer. -/
theorem follows_jwksCall {op : JwksCall Key β} {rest : β → JwksProgram Key α}
    (moved : ∀ world, stage.Holds ttl world → ∃ next, jwksMoves ttl β op stage world next ∧
      ∀ value, (JwksCall.handle β op world).1 = .ok value →
        (rest value).Follows JwksCall.handle (jwksStaging ttl) ends next) :
    (Prog.perform op >>= rest).Follows JwksCall.handle (jwksStaging ttl) ends stage := by
  refine Prog.follows_perform_bind fun world holds => ?_
  obtain ⟨next, moves, follows⟩ := moved world holds
  refine ⟨next, moves, follows, fun error raised => ?_⟩
  obtain ⟨value, answered⟩ := op.handle_answers world
  rw [answered] at raised
  cases raised

/-- A call that leaves the thread where it is. -/
theorem follows_jwksRead {op : JwksCall Key β} {rest : β → JwksProgram Key α}
    (stays : ∀ world, jwksMoves ttl β op stage world stage)
    (follows : ∀ value, (rest value).Follows JwksCall.handle (jwksStaging ttl) ends stage) :
    (Prog.perform op >>= rest).Follows JwksCall.handle (jwksStaging ttl) ends stage :=
  follows_jwksCall fun world _ => ⟨stage, stays world, fun value _ => follows value⟩

/-- The lock can be given back: the cache holds the newest load. -/
def JwksStage.Settled (ttl : Rat) (stage : JwksStage Key) : Prop :=
  stage.inside = true ∧ ∀ world, stage.Holds ttl world → world.Synced ttl

theorem JwksStage.settled_due (forced : Bool) : (JwksStage.due forced : JwksStage Key).Settled ttl :=
  ⟨rfl, fun _ holds => holds.1⟩

theorem JwksStage.settled_timed (now : Rat) : (JwksStage.timed now : JwksStage Key).Settled ttl :=
  ⟨rfl, fun _ holds => holds.1⟩

/-- A fetch stays where it is due. -/
theorem fetchDocument_follows (forced : Bool) (left attempt : Nat) :
    (fetchDocument forced left attempt : JwksProgram Key _).Follows JwksCall.handle (jwksStaging ttl)
      (fun _ stage => stage = .due forced) (.due forced) := by
  induction left generalizing attempt with
  | zero =>
    refine follows_jwksRead (fun world => .get forced world) fun answer => ?_
    cases answer with
    | document | other | requestException => rfl
  | succ left ih =>
    refine follows_jwksRead (fun world => .get forced world) fun answer => ?_
    cases answer with
    | document | other => rfl
    | requestException status error =>
      simp only [attempted]
      split
      · exact follows_jwksRead (fun world => .sleep _ _ world) fun _ => ih (attempt + 1)
      · rfl

theorem fetchOrKeep_follows (settings : JwksSettings Key) (forced : Bool) :
    (fetchOrKeep settings forced).Follows JwksCall.handle (jwksStaging ttl)
      (fun _ stage => stage = .due forced) (.due forced) := by
  have attempts : (fetchDocument forced settings.retries 1 >>= fun document =>
      .ret (some document) : JwksProgram Key _).Follows JwksCall.handle (jwksStaging ttl)
        (fun _ stage => stage = .due forced) (.due forced) :=
    (fetchDocument_follows forced settings.retries 1).bind (fun _ _ same => same) fun _ _ same => same
  refine attempts.tryCatch (fun _ _ same => same) ?_
  · rintro error _ rfl
    split
    · refine follows_jwksRead (fun world => .keys _ world) fun keys => ?_
      split
      · rfl
      · rfl
    · rfl

theorem applyDocument_follows (document : List (JwkEntry Key)) (forced : Bool) :
    (applyDocument document forced).Follows JwksCall.handle (jwksStaging ttl)
      (fun _ stage => stage = .entered) (.due forced) := by
  refine follows_jwksCall fun world _ => ⟨_, .setRaw forced document world, fun _ _ => ?_⟩
  refine follows_jwksCall fun world _ => ⟨_, .setKeys forced document world, fun _ _ => ?_⟩
  refine follows_jwksCall fun world _ => ⟨_, .stamped forced document world, fun now read => ?_⟩
  obtain rfl := Except.ok.inj read
  exact Prog.follows_perform.mpr fun world _ => ⟨_, .setFetchedAt _ world, rfl⟩

/-- Under the lock, a cache that is not fresh is due. -/
theorem isFresh_follows_inside (force : Bool) :
    (isFresh force ttl : JwksProgram Key Bool).Follows JwksCall.handle (jwksStaging ttl)
      (fun result stage => (∃ now, result = .ok true ∧ stage = .timed now) ∨
        result = .ok false ∧ stage = .due force)
      .entered := by
  cases force with
  | true =>
    exact follows_jwksCall fun world _ => ⟨_, .forced world, fun _ _ => .inr ⟨rfl, rfl⟩⟩
  | false =>
    refine follows_jwksCall fun start _ => ⟨_, .timed start, fun now read => ?_⟩
    obtain rfl := Except.ok.inj read
    refine follows_jwksCall fun world _ => ?_
    rcases nothing : world.client.keys with _ | ⟨key, keys⟩
    · refine ⟨_, .empty _ world nothing, fun keys read => ?_⟩
      obtain rfl := nothing.symm.trans (Except.ok.inj read)
      exact .inr ⟨rfl, rfl⟩
    · refine ⟨_, .keys _ world, fun read same => ?_⟩
      obtain rfl := nothing.symm.trans (Except.ok.inj same)
      refine follows_jwksCall fun world _ => ?_
      by_cases old : world.client.fetchedAt + ttl ≤ start.monotonic
      · refine ⟨_, .expired _ world old, fun fetchedAt read => ?_⟩
        obtain rfl := Except.ok.inj read
        exact .inr ⟨congrArg _ (decide_eq_false (by grind)), rfl⟩
      · refine ⟨_, .fetchedAt _ world, fun fetchedAt read => ?_⟩
        obtain rfl := Except.ok.inj read
        exact .inl ⟨_, congrArg _ (decide_eq_true (by grind)), rfl⟩

theorem refreshLocked_follows (settings : JwksSettings Key) (force : Bool) :
    (refreshLocked settings force).Follows JwksCall.handle (jwksStaging settings.ttl)
      (fun _ stage => stage = .entered ∨ stage.Settled settings.ttl) .entered := by
  have settled (now : Rat) : (JwksStage.timed now : JwksStage Key).Settled settings.ttl :=
    JwksStage.settled_timed now
  refine (isFresh_follows_inside force).bind ?_ ?_
  · rintro error _ (⟨now, failed, -⟩ | ⟨failed, -⟩)
    · cases failed
    · cases failed
  · rintro fresh _ (⟨now, kept, rfl⟩ | ⟨due, rfl⟩)
    · obtain rfl := Except.ok.inj kept
      exact .inr (settled now)
    · obtain rfl := Except.ok.inj due
      refine (fetchOrKeep_follows settings force).bind ?_ ?_
      · rintro error _ rfl
        exact .inr (JwksStage.settled_due force)
      · rintro document _ rfl
        cases document with
        | none => exact .inr (JwksStage.settled_due force)
        | some document => exact (applyDocument_follows document force).mono fun _ _ same => .inl same

theorem isFresh_follows_outside (force : Bool) (limit : Rat) :
    (isFresh force limit : JwksProgram Key Bool).Follows JwksCall.handle (jwksStaging ttl)
      (fun _ stage => stage = .outside) .outside := by
  refine follows_jwksRead (fun world => .monotonic _ world) fun now => ?_
  split
  · rfl
  · refine follows_jwksRead (fun world => .keys _ world) fun keys => ?_
    split
    · rfl
    · exact follows_jwksRead (fun world => .fetchedAt _ world) fun _ => rfl

/-- A refresh takes the lock where the cache is not fresh, and gives it back however it ends. -/
theorem refreshKeys_follows {settings : JwksSettings Key} (dynamic : settings.staticDocument = none)
    (force : Bool) :
    (refreshKeys settings force).Follows JwksCall.handle (jwksStaging settings.ttl)
      (fun _ stage => stage = .outside) .outside := by
  rw [refreshKeys, dynamic]
  refine (isFresh_follows_outside force settings.ttl).bind (fun _ _ same => same) ?_
  rintro fresh _ rfl
  cases fresh with
  | true => rfl
  | false =>
    refine follows_jwksCall fun world _ => ⟨_, .acquire world, fun _ _ => ?_⟩
    refine (refreshLocked_follows settings force).tryFinally fun result stage settled => ?_
    have within : stage.inside = true := by
      rcases settled with rfl | settled
      · rfl
      · exact settled.1
    have synced (world : JwksWorld Key) (holds : stage.Holds settings.ttl world) :
        world.Synced settings.ttl := by
      rcases settled with rfl | settled
      · exact holds
      · exact settled.2 world holds
    refine follows_jwksCall fun world _ => ⟨_, .release stage world within (synced world), fun _ _ => ?_⟩
    cases result with
    | ok value => rfl
    | error error => rfl

theorem lookupSigningKey_follows (kid : PyStr) :
    (lookupSigningKey kid : JwksProgram Key _).Follows JwksCall.handle (jwksStaging ttl)
      (fun _ stage => stage = .outside) .outside := by
  refine follows_jwksRead (fun world => .keys _ world) fun keys => ?_
  split
  · rfl
  · refine follows_jwksRead (fun world => .keys _ world) fun keys => ?_
    split
    · rfl
    · rfl

theorem unmatchedKey_follows (header : JwtHeader) :
    (unmatchedKey header : JwksProgram Key _).Follows JwksCall.handle (jwksStaging ttl)
      (fun _ stage => stage = .outside) .outside := by
  refine follows_jwksRead (fun world => .keys _ world) fun keys => ?_
  split
  · rfl
  · rfl

theorem getSigningKey_follows {settings : JwksSettings Key} (dynamic : settings.staticDocument = none)
    (jwt : PyJwt Key) (raw : PyStr) :
    (getSigningKey jwt settings raw).Follows JwksCall.handle (jwksStaging settings.ttl)
      (fun _ stage => stage = .outside) .outside := by
  unfold getSigningKey
  split
  · rfl
  · rename_i header read
    refine (refreshKeys_follows dynamic false).bind (fun _ _ same => same) ?_
    rintro _ _ rfl
    split
    · exact unmatchedKey_follows header
    · rename_i kid named
      refine (lookupSigningKey_follows kid).bind (fun _ _ same => same) ?_
      rintro found _ rfl
      cases found with
      | some key => rfl
      | none =>
        refine (refreshKeys_follows dynamic true).bind (fun _ _ same => same) ?_
        rintro _ _ rfl
        refine (lookupSigningKey_follows kid).bind (fun _ _ same => same) ?_
        rintro found _ rfl
        cases found with
        | some key => rfl
        | none => exact unmatchedKey_follows header

end

end HostingService

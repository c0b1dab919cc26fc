import HostingService.Api.JwksAlone
import HostingService.Program.Windows

/-! The JWKS cache that the threads of one worker process share: what a lookup asks the identity
service for and ends in, and how often the cache is loaded. -/

namespace HostingService

open Program Text

section
variable {Key : Type} {ttl : Rat} {stage : JwksStage Key} {world : JwksWorld Key} {α β : Type}

/-! ### What a lookup logs -/

abbrev JwksLog (Key : Type) := List (Entry (JwksCall Key) (JwksWorld Key))

/-- The keys that a thread has read, at one moment after the other. -/
def JwksLog.seen (log : JwksLog Key) : List (List (PyStr × Key)) :=
  log.filterMap fun
    | ⟨.keys, world⟩ => some world.client.keys
    | _ => none

/-- How many requests a thread has made, of the forced ones or of the others. -/
def JwksLog.asked (forced : Bool) (log : JwksLog Key) : Nat :=
  log.countP fun
    | ⟨.get made, _⟩ => made == forced
    | _ => false

/-- Nothing is counted on of the other threads. -/
def anyone : Conduct (JwksCall Key) (JwksWorld Key) := ⟨fun _ => True, fun _ _ => True, fun _ _ _ => True⟩

/-- However the threads interleave, the log and the end of the program meet `post`. -/
def Logs (body : JwksProgram Key α) (log : JwksLog Key)
    (post : JwksLog Key → Except KeyLookupError α → Prop) : Prop :=
  ∀ state, body.Relies JwksCall.handle anyone (fun log result _ => post log result) log state

variable {log : JwksLog Key} {post : JwksLog Key → Except KeyLookupError α → Prop}

theorem logs_call {op : JwksCall Key β} {rest : β → JwksProgram Key α}
    (each : ∀ world value, (JwksCall.handle β op world).1 = .ok value →
      Logs (rest value) (log ++ [⟨op, world⟩]) post) :
    Logs (Prog.perform op >>= rest) log post := by
  intro state
  refine Prog.relies_perform_bind fun world _ _ => ⟨trivial, fun value answered => ?_, ?_⟩
  · exact each world value answered _
  · intro error raised
    obtain ⟨value, answered⟩ := op.handle_answers world
    rw [answered] at raised
    cases raised

theorem Logs.bind {body : JwksProgram Key β} {rest : β → JwksProgram Key α}
    {middle : JwksLog Key → Except KeyLookupError β → Prop} (first : Logs body log middle)
    (raised : ∀ log error, middle log (.error error) → post log (.error error))
    (returned : ∀ log value, middle log (.ok value) → Logs (rest value) log post) :
    Logs (body >>= rest) log post := fun state =>
  (first state).bind (fun log error _ => raised log error)
    fun log value after met => returned log value met after

theorem Logs.mono {body : JwksProgram Key α} {weaker : JwksLog Key → Except KeyLookupError α → Prop}
    (logs : Logs body log post) (implied : ∀ log result, post log result → weaker log result) :
    Logs body log weaker := fun state =>
  (logs state).mono fun log result _ => implied log result

/-- The log has grown by at most so many requests of one sort, and by none of the other. -/
structure RequestsAtMost (force : Bool) (most : Nat) (before after : JwksLog Key) : Prop where
  grown : before <+: after
  others : after.asked (!force) = before.asked (!force)
  bound : after.asked force ≤ before.asked force + most

namespace RequestsAtMost
variable {force : Bool} {first second third : JwksLog Key} {n m : Nat}

theorem refl (force : Bool) (most : Nat) (log : JwksLog Key) : RequestsAtMost force most log log :=
  ⟨List.prefix_rfl, rfl, Nat.le_add_right _ _⟩

theorem trans (left : RequestsAtMost force n first second) (right : RequestsAtMost force m second third) :
    RequestsAtMost force (n + m) first third where
  grown := left.grown.trans right.grown
  others := right.others.trans left.others
  bound := by
    have early := left.bound
    have late := right.bound
    omega

theorem weaken (made : RequestsAtMost force n first second) (less : n ≤ m) : RequestsAtMost force m first second :=
  ⟨made.grown, made.others, made.bound.trans (Nat.add_le_add_left less _)⟩

/-- A call that is no request. -/
theorem read (force : Bool) (op : JwksCall Key β) (world : JwksWorld Key)
    (plain : ∀ forced, JwksLog.asked forced [⟨op, world⟩] = 0) (log : JwksLog Key) :
    RequestsAtMost force 0 log (log ++ [⟨op, world⟩]) where
  grown := List.prefix_append _ _
  others := by rw [JwksLog.asked, List.countP_append]; exact congrArg _ (plain _)
  bound := by rw [JwksLog.asked, List.countP_append]; exact (congrArg _ (plain _)).le

theorem get (force : Bool) (world : JwksWorld Key) (log : JwksLog Key) :
    RequestsAtMost force 1 log (log ++ [⟨.get force, world⟩]) where
  grown := List.prefix_append _ _
  others := by
    rw [JwksLog.asked, List.countP_append]
    cases force <;> rfl
  bound := by
    rw [JwksLog.asked, List.countP_append]
    cases force <;> exact Nat.le_refl _

end RequestsAtMost

/-- An error of a refresh, which is not that a key has vanished. -/
def FromFetch (result : Except KeyLookupError α) : Prop :=
  ∀ error, result = .error error → ∃ failure, error = .fetch failure

theorem fromFetch_ok (value : α) : FromFetch (.ok value) := fun _ failed => by cases failed

theorem fromFetch_fetch (failure : FetchError) :
    FromFetch (.error (.fetch failure) : Except KeyLookupError α) :=
  fun _ failed => ⟨failure, (Except.error.inj failed).symm⟩

theorem fetchDocument_logs (force : Bool) (left attempt : Nat) (log : JwksLog Key) :
    Logs (fetchDocument force left attempt) log fun after result =>
      RequestsAtMost force (left + 1) log after ∧ FromFetch result := by
  induction left generalizing attempt log with
  | zero =>
    refine logs_call fun world answer _ => ?_
    have made : RequestsAtMost force (0 + 1) log _ := .get force world log
    cases answer with
    | document => exact fun _ => ⟨made, fromFetch_ok _⟩
    | other | requestException => exact fun _ => ⟨made, fromFetch_fetch _⟩
  | succ left ih =>
    refine logs_call fun world answer _ => ?_
    have made : RequestsAtMost force 1 log _ := .get force world log
    have once : RequestsAtMost force (left + 1 + 1) log _ := made.weaken (by omega)
    cases answer with
    | document => exact fun _ => ⟨once, fromFetch_ok _⟩
    | other => exact fun _ => ⟨once, fromFetch_fetch _⟩
    | requestException status error =>
      simp only [attempted]
      split
      · refine logs_call fun world _ _ => (ih (attempt + 1) _).mono fun after result ended => ?_
        have slept := made.trans (RequestsAtMost.read force (.sleep (attempt / 4)) world (fun _ => rfl) _)
        exact ⟨(slept.trans ended.1).weaken (by omega), ended.2⟩
      · exact fun _ => ⟨once, fromFetch_fetch _⟩

theorem fetchOrKeep_logs (settings : JwksSettings Key) (force : Bool) (log : JwksLog Key) :
    Logs (fetchOrKeep settings force) log fun after result =>
      RequestsAtMost force (settings.retries + 1) log after ∧ FromFetch result := by
  have fetched : Logs (fetchDocument force settings.retries 1 >>= fun document => .ret (some document))
      log fun after result => RequestsAtMost force (settings.retries + 1) log after ∧ FromFetch result :=
    (fetchDocument_logs force settings.retries 1 log).bind
      (fun after error ended => ⟨ended.1, fun _ failed =>
        ended.2 error rfl |>.imp fun _ same => (Except.error.inj failed).symm.trans same⟩)
      fun after document ended _ => ⟨ended.1, fromFetch_ok _⟩
  refine fun state => (fetched state).tryCatch (fun after _ _ ended => ended) ?_
  intro after error middle ended
  split
  · refine logs_call (fun world keys _ => ?_) middle
    have kept := (ended.1.trans (RequestsAtMost.read force .keys world (fun _ => rfl) _))
    split
    · exact fun _ => ⟨kept, fromFetch_fetch _⟩
    · exact fun _ => ⟨kept, fromFetch_ok _⟩
  · obtain ⟨failure, rfl⟩ := ended.2 error rfl
    exact ⟨ended.1, fromFetch_fetch failure⟩

/-- One more call that is no request. -/
theorem RequestsAtMost.next {force : Bool} {most : Nat} {first second : JwksLog Key}
    (made : RequestsAtMost force most first second) (op : JwksCall Key β) (world : JwksWorld Key)
    (plain : ∀ forced, JwksLog.asked forced [⟨op, world⟩] = 0) :
    RequestsAtMost force most first (second ++ [⟨op, world⟩]) :=
  made.trans (.read force op world plain second)

theorem applyDocument_logs (document : List (JwkEntry Key)) (made force : Bool) (log : JwksLog Key) :
    Logs (applyDocument document made) log fun after result =>
      RequestsAtMost force 0 log after ∧ FromFetch result := by
  refine logs_call fun raw _ _ => logs_call fun keyed _ _ => logs_call fun timed now _ => ?_
  intro state
  refine Prog.relies_perform.mpr fun world _ _ => ⟨trivial, ?_, fromFetch_ok ()⟩
  have first := RequestsAtMost.read force (.setRaw document) raw (fun _ => rfl) log
  have second := first.next (.setKeys document) keyed fun _ => rfl
  exact (second.next .monotonic timed fun _ => rfl).next (.setFetchedAt _) world fun _ => rfl

theorem isFresh_logs (force : Bool) (ttl : Rat) (log : JwksLog Key) :
    Logs (isFresh force ttl) log fun after result => RequestsAtMost force 0 log after ∧ FromFetch result := by
  refine logs_call fun timed now _ => ?_
  have first := RequestsAtMost.read force .monotonic timed (fun _ => rfl) log
  split
  · exact fun _ => ⟨first, fromFetch_ok _⟩
  · refine logs_call fun read keys _ => ?_
    have second := first.next .keys read fun _ => rfl
    split
    · exact fun _ => ⟨second, fromFetch_ok _⟩
    · exact logs_call fun world _ _ _ => ⟨second.next .fetchedAt world fun _ => rfl, fromFetch_ok _⟩

theorem FromFetch.cast {result : Except KeyLookupError α} {error : KeyLookupError}
    (fetched : FromFetch result) (failed : result = .error error) :
    FromFetch (.error error : Except KeyLookupError β) := by
  obtain ⟨failure, rfl⟩ := fetched error failed
  exact fromFetch_fetch failure

theorem refreshLocked_logs (settings : JwksSettings Key) (force : Bool) (log : JwksLog Key) :
    Logs (refreshLocked settings force) log fun after result =>
      RequestsAtMost force (settings.retries + 1) log after ∧ FromFetch result := by
  refine (isFresh_logs force settings.ttl log).bind ?_ ?_
  · exact fun after error ended => ⟨ended.1.weaken (Nat.zero_le _), ended.2.cast rfl⟩
  · intro checked fresh ended
    cases fresh with
    | true => exact fun _ => ⟨ended.1.weaken (Nat.zero_le _), fromFetch_ok _⟩
    | false =>
      refine (fetchOrKeep_logs settings force checked).bind ?_ ?_
      · exact fun after error fetched =>
          ⟨(ended.1.trans fetched.1).weaken (by omega), fetched.2.cast rfl⟩
      · intro after document fetched
        have asked := (ended.1.trans fetched.1).weaken (m := settings.retries + 1) (by omega)
        cases document with
        | none => exact fun _ => ⟨asked, fromFetch_ok _⟩
        | some document =>
          exact (applyDocument_logs document force force after).mono fun last result applied =>
            ⟨asked.trans applied.1, applied.2⟩

theorem refreshKeys_logs (settings : JwksSettings Key) (force : Bool) (log : JwksLog Key) :
    Logs (refreshKeys settings force) log fun after result =>
      RequestsAtMost force (settings.retries + 1) log after ∧ FromFetch result := by
  unfold refreshKeys
  split
  · refine logs_call fun read keys _ => ?_
    have first := RequestsAtMost.read force .keys read (fun _ => rfl) log
    cases keys.isEmpty with
    | false => exact fun _ => ⟨first.weaken (Nat.zero_le _), fromFetch_ok _⟩
    | true =>
      exact (applyDocument_logs _ false force _).mono fun after result applied =>
        ⟨(first.trans applied.1).weaken (Nat.zero_le _), applied.2⟩
  · refine (isFresh_logs force settings.ttl log).bind ?_ ?_
    · exact fun after error ended => ⟨ended.1.weaken (Nat.zero_le _), ended.2.cast rfl⟩
    · intro checked fresh ended
      cases fresh with
      | true => exact fun _ => ⟨ended.1.weaken (Nat.zero_le _), fromFetch_ok _⟩
      | false =>
        refine logs_call fun taken _ _ => ?_
        have entered := ended.1.next .acquire taken fun _ => rfl
        intro state
        refine Prog.Relies.tryFinally (refreshLocked_logs settings force _ state) ?_
        intro after result middle refreshed
        have asked := (entered.trans refreshed.1).weaken (m := settings.retries + 1) (by omega)
        refine logs_call (fun world _ _ => ?_) middle
        have left := asked.next .release world fun _ => rfl
        cases result with
        | ok value => exact fun _ => ⟨left, fromFetch_ok _⟩
        | error error => exact fun _ => ⟨left, refreshed.2⟩

theorem mem_seen_append {op : JwksCall Key (List (PyStr × Key))} (read : op = .keys)
    (world : JwksWorld Key) (log : JwksLog Key) : world.client.keys ∈ JwksLog.seen (log ++ [⟨op, world⟩]) := by
  subst read
  rw [JwksLog.seen, List.filterMap_append]
  exact List.mem_append_right _ (List.mem_singleton_self _)

theorem seen_mono {before after : JwksLog Key} (grown : before <+: after) {keys : List (PyStr × Key)}
    (read : keys ∈ before.seen) : keys ∈ after.seen :=
  (grown.filterMap _).subset read

/-- The thread has read a cache without the key at some moment. -/
def Missed (kid : PyStr) (log : JwksLog Key) : Prop := ∃ keys ∈ log.seen, findKey keys kid = none

/-- What `self._keys` is asked for at two moments. -/
def LookedUp (kid : PyStr) (log : JwksLog Key) (result : Except KeyLookupError (Option Key)) : Prop :=
  (∀ key, result = .ok (some key) → ∃ keys ∈ log.seen, findKey keys kid = some key) ∧
    (result = .ok none → Missed kid log) ∧
    ∀ error, result = .error error → error = .keyError kid ∧ Missed kid log ∧
      ∃ keys ∈ log.seen, findKey keys kid ≠ none

theorem lookupSigningKey_logs (kid : PyStr) (log : JwksLog Key) :
    Logs (lookupSigningKey kid) log fun after result => RequestsAtMost true 0 log after ∧ LookedUp kid after result := by
  refine logs_call fun read keys answered => ?_
  obtain rfl := Except.ok.inj answered
  have first := RequestsAtMost.read true .keys read (fun _ => rfl) log
  have seen := mem_seen_append rfl read log
  cases found : findKey read.client.keys kid with
  | none => exact fun _ => ⟨first, by simp, fun _ => ⟨_, seen, found⟩, by simp⟩
  | some key =>
    refine logs_call fun again keys answered => ?_
    obtain rfl := Except.ok.inj answered
    have second := first.next .keys again fun _ => rfl
    have last := mem_seen_append rfl again (log ++ [⟨.keys, read⟩])
    have early := seen_mono (List.prefix_append _ [⟨.keys, again⟩]) seen
    cases kept : findKey again.client.keys kid with
    | some other =>
      refine fun _ => ⟨second, ?_, by simp, by simp⟩
      intro key same
      obtain rfl := Option.some.inj (Except.ok.inj same)
      exact ⟨_, last, kept⟩
    | none =>
      refine fun _ => ⟨second, by simp, by simp, ?_⟩
      intro error same
      obtain rfl := Except.error.inj same
      exact ⟨rfl, ⟨_, last, kept⟩, _, early, by simp [found]⟩

theorem unmatchedKey_logs (header : JwtHeader) (log : JwksLog Key) :
    Logs (unmatchedKey header : JwksProgram Key _) log fun after result => RequestsAtMost true 0 log after ∧
      (∀ key, result ≠ .ok (some key)) ∧ ∀ kid, result ≠ .error (.keyError kid) := by
  refine logs_call fun read keys _ => ?_
  have first := RequestsAtMost.read true .keys read (fun _ => rfl) log
  split
  · exact fun _ => ⟨first, by simp, by simp⟩
  · exact fun _ => ⟨first, by simp, by simp⟩

/-- How a call of `get_signing_key` ends: a key that is returned was the cached one of the `kid`
at a moment of the call; only a key that vanishes during the call makes the index fail; and a
forced request is made for a `kid` that the cache lacked. -/
structure LookupEnd (settings : JwksSettings Key) (header : JwtHeader) (log : JwksLog Key)
    (result : Except KeyLookupError (Option Key)) : Prop where
  found : ∀ key, result = .ok (some key) → ∃ kid, header.kid = some kid ∧ kid ≠ [] ∧
    ∃ keys ∈ log.seen, findKey keys kid = some key
  vanished : ∀ kid, result = .error (.keyError kid) → header.kid = some kid ∧ Missed kid log ∧
    ∃ keys ∈ log.seen, findKey keys kid ≠ none
  unforced : log.asked false ≤ settings.retries + 1
  forced : log.asked true ≤ settings.retries + 1
  missed : 0 < log.asked true → ∃ kid, header.kid = some kid ∧ kid ≠ [] ∧ Missed kid log

/-- The requests of a call: the refresh, and what came after it. -/
theorem asked_of_refreshed {settings : JwksSettings Key} {first last : JwksLog Key} {most : Nat}
    (refreshed : RequestsAtMost false (settings.retries + 1) [] first) (later : RequestsAtMost true most first last) :
    last.asked false ≤ settings.retries + 1 ∧ last.asked true ≤ most := by
  have unforced : last.asked false = first.asked false := later.others
  have none : first.asked true = 0 := refreshed.others
  have bound : first.asked false ≤ 0 + (settings.retries + 1) := refreshed.bound
  have forced := later.bound
  omega

/-- The cache has answered, or not, after the log has made no forced request. -/
theorem LookupEnd.of_unforced {settings : JwksSettings Key} {header : JwtHeader}
    {first last : JwksLog Key} {result : Except KeyLookupError (Option Key)}
    (refreshed : RequestsAtMost false (settings.retries + 1) [] first) (later : RequestsAtMost true 0 first last)
    (found : ∀ key, result = .ok (some key) → ∃ kid, header.kid = some kid ∧ kid ≠ [] ∧
      ∃ keys ∈ last.seen, findKey keys kid = some key)
    (vanished : ∀ kid, result = .error (.keyError kid) → header.kid = some kid ∧ Missed kid last ∧
      ∃ keys ∈ last.seen, findKey keys kid ≠ none) : LookupEnd settings header last result where
  found := found
  vanished := vanished
  unforced := (asked_of_refreshed refreshed later).1
  forced := (asked_of_refreshed refreshed later).2.trans (Nat.zero_le _)
  missed some := by
    have none := (asked_of_refreshed refreshed later).2
    omega

variable {settings : JwksSettings Key} {header : JwtHeader} {kid : PyStr}

/-- The two ends of a lookup that are ends of the call. -/
theorem LookedUp.facts {result : Except KeyLookupError (Option Key)} (looked : LookedUp kid log result)
    (named : header.kid = some kid) (full : kid ≠ []) :
    (∀ key, result = .ok (some key) → ∃ kid, header.kid = some kid ∧ kid ≠ [] ∧
      ∃ keys ∈ log.seen, findKey keys kid = some key) ∧
    ∀ other, result = .error (.keyError other) → header.kid = some other ∧ Missed other log ∧
      ∃ keys ∈ log.seen, findKey keys other ≠ none := by
  refine ⟨fun key same => ⟨kid, named, full, looked.1 key same⟩, fun other failed => ?_⟩
  obtain ⟨same, missed, held⟩ := looked.2.2 _ failed
  obtain rfl := KeyLookupError.keyError.inj same
  exact ⟨named, missed, held⟩

/-- After a miss the cache is loaded once more, and asked again. -/
theorem rotation_logs {first missed : JwksLog Key} (named : header.kid = some kid) (full : kid ≠ [])
    (refreshed : RequestsAtMost false (settings.retries + 1) [] first) (looked : RequestsAtMost true 0 first missed)
    (miss : Missed kid missed) :
    Logs (refreshKeys settings true >>= fun _ => lookupSigningKey kid >>= fun
      | some key => .ret (some key)
      | none => unmatchedKey header) missed (LookupEnd settings header) := by
  have ended {last : JwksLog Key} {result : Except KeyLookupError (Option Key)}
      (made : RequestsAtMost true (settings.retries + 1) missed last)
      (facts : (∀ key, result = .ok (some key) → ∃ kid, header.kid = some kid ∧ kid ≠ [] ∧
          ∃ keys ∈ last.seen, findKey keys kid = some key) ∧
        ∀ other, result = .error (.keyError other) → header.kid = some other ∧ Missed other last ∧
          ∃ keys ∈ last.seen, findKey keys other ≠ none) : LookupEnd settings header last result := by
    have asked := asked_of_refreshed refreshed (looked.trans made)
    obtain ⟨keys, read, absent⟩ := miss
    exact ⟨facts.1, facts.2, asked.1, asked.2.trans (by omega),
      fun _ => ⟨kid, named, full, keys, seen_mono made.grown read, absent⟩⟩
  refine (refreshKeys_logs settings true missed).bind ?_ fun loaded _ refreshed => ?_
  · intro failed error refreshed
    obtain ⟨failure, rfl⟩ := refreshed.2 error rfl
    exact ended refreshed.1 ⟨by simp, by simp⟩
  · refine (lookupSigningKey_logs kid loaded).bind ?_ fun last found looked => ?_
    · exact fun last error looked => ended (refreshed.1.trans looked.1) (looked.2.facts named full)
    · cases found with
      | some key =>
        exact fun _ => ended (refreshed.1.trans looked.1) (looked.2.facts named full)
      | none =>
        refine (unmatchedKey_logs header last).mono fun after result unmatched => ?_
        refine ended ((refreshed.1.trans looked.1).trans unmatched.1) ⟨?_, ?_⟩
        · exact fun key same => absurd same (unmatched.2.1 key)
        · exact fun kid same => absurd same (unmatched.2.2 kid)

theorem signingKey_logs (settings : JwksSettings Key) (header : JwtHeader) :
    Logs (signingKey settings header) [] (LookupEnd settings header) := by
  refine (refreshKeys_logs settings false []).bind ?_ fun first _ refreshed => ?_
  · intro failed error refreshed
    obtain ⟨failure, rfl⟩ := refreshed.2 error rfl
    exact .of_unforced refreshed.1 (.refl true 0 failed) (by simp) (by simp)
  · rcases named : header.kid.filter (· ≠ []) with _ | kid
    · refine (unmatchedKey_logs header first).mono fun last result unmatched => ?_
      refine .of_unforced refreshed.1 unmatched.1 ?_ ?_
      · exact fun key same => absurd same (unmatched.2.1 key)
      · exact fun kid same => absurd same (unmatched.2.2 kid)
    · obtain ⟨given, present⟩ := Option.filter_eq_some_iff.mp named
      have full : kid ≠ [] := of_decide_eq_true present
      refine (lookupSigningKey_logs kid first).bind ?_ fun last found looked => ?_
      · intro last error looked
        have facts := looked.2.facts given full
        exact .of_unforced refreshed.1 looked.1 facts.1 facts.2
      · have facts := looked.2.facts given full
        cases found with
        | some key => exact fun _ => .of_unforced refreshed.1 looked.1 facts.1 facts.2
        | none => exact rotation_logs given full refreshed.1 looked.1 (looked.2.2.1 rfl)

/-! ### The shared cache -/

/-- A client that was just made. -/
structure JwksWorld.New (world : JwksWorld Key) : Prop where
  keys : world.client.keys = []
  unlocked : world.locked = false
  loads : world.loads = []

theorem JwksWorld.New.synced (new : world.New) : world.Synced ttl := by
  obtain ⟨keys, unlocked, loads⟩ := new
  refine ⟨⟨?_, ?_⟩, ?_, fun _ => keys⟩
  · rw [loads]
    exact .nil
  · simp [loads]
  · simp [loads]

theorem JwksStage.Holds.spaced (holds : stage.Holds ttl world) (within : stage.inside = true) :
    world.Spaced ttl := by
  cases stage with
  | outside => cases within
  | entered => exact holds.toSpaced
  | timed now => exact holds.1.toSpaced
  | due forced => exact holds.1.toSpaced
  | writing forced => exact holds.1
  | written forced document => exact holds.1
  | stamped load => exact holds.1

/-- The loads of a kind in `(low, high]`. -/
def JwksWorld.loadsWithin (world : JwksWorld Key) (low high : Rat) (kind : JwksLoad Key → Bool) : Nat :=
  world.loads.countP fun load => decide (low < load.loadedAt) && decide (load.loadedAt ≤ high) && kind load

/-- Fewer than a lifetime of the cache apart, unforced loads follow loads that gave no key. -/
theorem JwksWorld.Spaced.herd (spaced : world.Spaced ttl) (moment : Rat) :
    world.loadsWithin (moment - ttl) moment (!·.forced) ≤
      world.loadsWithin (moment - ttl) moment (·.keys.isEmpty) + 1 := by
  refine Windows.countP_spaced spaced.chain ?_ ?_ ?_
  · intro newer older near high
    exact decide_eq_true (Rat.le_trans near.1 (of_decide_eq_true high))
  · intro newer older near low
    have above := of_decide_eq_true low
    have later := near.1
    exact decide_eq_true (by grind)
  · intro newer older near high low plain
    have below := of_decide_eq_true high
    have above := of_decide_eq_true low
    rcases near.2 with forced | empty | expired
    · simp [forced] at plain
    · exact List.isEmpty_iff.mpr empty
    · grind

/-- The relation between the threads and the lock in every crew that is reached. -/
theorem JwksCrew.Reaches.guards {jwt : PyJwt Key} {settings : JwksSettings Key}
    (dynamic : settings.staticDocument = none) {start crew : JwksCrew Key} (new : start.shared.New)
    (idle : start.threads = []) (path : JwksCrew.Reaches jwt settings start crew) :
    ∃ posts, posts.map (·.thread) = crew.threads ∧
      (jwksLock settings.ttl).Guards (jwksStaging settings.ttl) (RequestWarranted settings.ttl)
        crew.shared posts ∧
      ∀ post ∈ posts, post.thread.rest.Follows JwksCall.handle (jwksStaging settings.ttl)
        (fun _ stage => stage = .outside) post.stage := by
  refine Crew.ReachesIf.locked (jwksLock settings.ttl) (RequestWarranted settings.ttl)
    (fun _ => .outside)
    (fun raw => getSigningKey_follows dynamic jwt raw) new.unlocked new.synced idle ?_ ?_ ?_ path
  · exact fun raw => ⟨rfl, fun _ => trivial⟩
  · intro before after changed
    cases changed with
    | passes later forward =>
      exact ⟨rfl, fun synced => synced.later rfl rfl forward, fun _ holds => holds.later rfl rfl forward⟩
    | answers answer =>
      exact ⟨rfl, fun synced => synced.later rfl rfl Rat.le_refl,
        fun _ holds => holds.later rfl rfl Rat.le_refl⟩
  · intro β op stage world next permitted holds held kept moved
    obtain ⟨move, now, passed⟩ := jwksMoves_lock permitted holds held kept moved
    exact ⟨move, now, passed, fun other counted apart => jwksMoves_others moved counted apart⟩

/-- A call ends as its own log says, whatever the others do. -/
theorem JwksCrew.Reaches.lookupEnds {jwt : PyJwt Key} {settings : JwksSettings Key}
    {start crew : JwksCrew Key} (idle : start.threads = [])
    (path : JwksCrew.Reaches jwt settings start crew) :
    crew.Relying JwksCall.handle anyone fun raw log result _ =>
      ∀ header, jwt.getUnverifiedHeader raw = .ok header → LookupEnd settings header log result := by
  refine (Crew.ReachesIf.reaches path).relies anyone (fun _ => trivial) (fun _ _ => trivial)
    (fun _ _ _ _ _ => ⟨trivial, trivial⟩) (fun _ _ _ _ => ⟨trivial, trivial⟩)
    (fun _ _ _ _ _ _ ended => ended) ?_ idle trivial
  intro raw state
  unfold getSigningKey
  split
  · rename_i error failed
    intro header read
    rw [failed] at read
    cases read
  · rename_i named read
    refine (signingKey_logs settings named state).mono fun log result _ ended header same => ?_
    obtain rfl := Except.ok.inj (read.symm.trans same)
    exact ended

/-- What holds of the cache at every moment. -/
structure JwksCrew.Sound (jwt : PyJwt Key) (settings : JwksSettings Key) (crew : JwksCrew Key) :
    Prop where
  /-- The lock has one holder. -/
  holder : crew.threads.countP (·.holding JwksCall.marks) = crew.shared.locked.toNat
  /-- Requests are made under it, where they are needed. -/
  requests : crew.Logged (RequestWarranted settings.ttl)
  /-- In a lifetime of the cache there is at most one unforced load, and one more for each load
  that gave no key. -/
  herd : ∀ moment, crew.shared.loadsWithin (moment - settings.ttl) moment (!·.forced) ≤
    crew.shared.loadsWithin (moment - settings.ttl) moment (·.keys.isEmpty) + 1
  released : ∀ thread ∈ crew.threads, thread.rest.Finished → thread.holding JwksCall.marks = false
  ended : ∀ thread ∈ crew.threads, ∀ result, thread.rest = .ofExcept result →
    ∀ header, jwt.getUnverifiedHeader thread.task = .ok header →
      LookupEnd settings header thread.log result

/-- The JWKS cache of one worker process, for any number of lookups in any order of their steps. -/
theorem jwks_cache_shared (jwt : PyJwt Key) (settings : JwksSettings Key)
    (dynamic : settings.staticDocument = none) {start crew : JwksCrew Key} (new : start.shared.New)
    (idle : start.threads = []) (path : JwksCrew.Reaches jwt settings start crew) :
    crew.Sound jwt settings := by
  obtain ⟨posts, staffed, guards, running⟩ := path.guards dynamic new idle
  have spaced : crew.shared.Spaced settings.ttl := by
    rcases locked : crew.shared.locked with _ | _
    · exact (guards.free locked).toSpaced
    · have sole : posts.countP (fun post => post.stage.inside) = crew.shared.locked.toNat := guards.sole
      rw [locked, Bool.toNat_true] at sole
      obtain ⟨post, member, within⟩ := List.countP_pos_iff.mp (sole ▸ Nat.one_pos)
      exact JwksStage.Holds.spaced (guards.counts post member) within
  constructor
  case holder =>
    rw [← staffed]
    exact guards.holding
  case requests =>
    intro thread member
    rw [← staffed] at member
    obtain ⟨post, present, rfl⟩ := List.mem_map.mp member
    exact guards.logged post present
  case herd => exact spaced.herd
  case released =>
    intro thread member finished
    rw [← staffed] at member
    obtain ⟨post, present, rfl⟩ := List.mem_map.mp member
    have out := running post present
    have outside : post.stage = .outside := by
      rcases rest : post.thread.rest with value | error | ⟨op, next⟩
      · rw [rest] at out
        exact out
      · rw [rest] at out
        exact out
      · rw [rest] at finished
        exact finished.elim
    have held : post.thread.holding JwksCall.marks = post.stage.inside := guards.held post present
    rw [held, outside]
    rfl
  case ended =>
    intro thread member result ended
    have relies := (path.lookupEnds idle).2 thread member
    rw [ended] at relies
    exact Prog.relies_ofExcept.mp relies

/-! ### Two first lookups -/

def lookupThread : JwksThread PyStr :=
  ⟨lit "token", getSigningKey (signedJwt pinnedRead) jwksSettings (lit "token"), []⟩

/-- A lookup that has found no keys and waits for the lock. -/
def waitingLookup : JwksThread PyStr × JwksWorld PyStr :=
  lookupThread.after JwksCall.handle 2 firstCache

/-- Another one that runs meanwhile. -/
def loadingLookup : JwksThread PyStr × JwksWorld PyStr :=
  lookupThread.after JwksCall.handle 20 waitingLookup.2

def secondLookup : JwksThread PyStr × JwksWorld PyStr :=
  waitingLookup.1.after JwksCall.handle 20 loadingLookup.2

def herdCrew : JwksCrew PyStr := ⟨secondLookup.2, [loadingLookup.1, secondLookup.1]⟩

theorem herdCrew_reached :
    JwksCrew.Reaches (signedJwt pinnedRead) jwksSettings ⟨firstCache, []⟩ herdCrew := by
  have permitted (entries : List (Entry (JwksCall PyStr) (JwksWorld PyStr)))
      (free : (entries.all fun entry => !entry.op.waits entry.state) = true) :
      ∀ entry ∈ entries, JwksCall.permitted _ entry.op entry.state := by
    intro entry member
    have goes := List.all_eq_true.mp free entry member
    exact (Bool.not_eq_true' _).mp goes
  refine .head (.arrive (lit "token")) ?_
  refine (Crew.ReachesIf.makes 2 lookupThread firstCache (permitted _ (by decide +kernel)) [] []).trans ?_
  refine .head (.arrive (lit "token")) ?_
  refine (Crew.ReachesIf.makes 20 lookupThread waitingLookup.2 (permitted _ (by decide +kernel)) []
    [waitingLookup.1]).trans ?_
  exact Crew.ReachesIf.makes 20 waitingLookup.1 loadingLookup.2 (permitted _ (by decide +kernel))
    [loadingLookup.1] []

theorem jwks_cache_shared_herd :
    herdCrew.Sound (signedJwt pinnedRead) jwksSettings ∧ herdCrew.shared.loads.length = 1 ∧
      ∀ thread ∈ herdCrew.threads, thread.rest.Finished :=
  ⟨jwks_cache_shared (signedJwt pinnedRead) jwksSettings rfl ⟨rfl, rfl, rfl⟩ rfl herdCrew_reached,
    by decide +kernel, by decide +kernel⟩

end

end HostingService

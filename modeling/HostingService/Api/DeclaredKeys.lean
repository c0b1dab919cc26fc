import HostingService.Api.Jwks

/-! Which keys the client gives out: those of entries that declare the `kid` of the token,
and those of entries without one. -/

namespace HostingService

open Text

section Tables
variable {V : Type} {table : List (PyStr × V)} {name other : PyStr} {value : V}

/-- `table.get(name)` -/
def lookupKey (table : List (PyStr × V)) (name : PyStr) : Option V :=
  (table.find? (·.1 = name)).map (·.2)

theorem map_fst_assignKey : (assignKey table name value).map (·.1) =
    if name ∈ table.map (·.1) then table.map (·.1) else table.map (·.1) ++ [name] := by
  have present : table.any (·.1 = name) = true ↔ name ∈ table.map (·.1) := by
    simp [List.any_eq_true]
  rw [assignKey]
  by_cases known : name ∈ table.map (·.1)
  · rw [if_pos (present.mpr known), if_pos known, List.map_map]
    apply List.map_congr_left
    intro entry _
    by_cases same : entry.1 = name <;> simp [same]
  · rw [if_neg (mt present.mp known), if_neg known, List.map_append]
    rfl

theorem lookupKey_some {found : V} (looked : lookupKey table name = some found) :
    name ∈ table.map (·.1) := by
  obtain ⟨entry, at_name, _⟩ := Option.map_eq_some_iff.mp looked
  have same : entry.1 = name := by simpa using List.find?_some at_name
  exact List.mem_map.mpr ⟨entry, List.mem_of_find?_eq_some at_name, same⟩

theorem lookupKey_assignKey : lookupKey (assignKey table name value) other =
    if name = other then some value else lookupKey table other := by
  rw [assignKey, lookupKey, lookupKey]
  split
  · rename_i present
    have kept : ((fun entry : PyStr × V => decide (entry.1 = other)) ∘ fun entry =>
        if entry.1 = name then (name, value) else entry) = fun entry => decide (entry.1 = other) := by
      funext entry
      by_cases same : entry.1 = name <;> simp [same]
    rw [List.find?_map, kept, Option.map_map]
    rcases found : table.find? (·.1 = other) with _ | entry
    · have absent := List.find?_eq_none.mp found
      obtain ⟨entry, member, same⟩ := List.any_eq_true.mp present
      have different : name ≠ other := by
        rintro rfl
        exact absent entry member same
      rw [if_neg different, found]
      rfl
    · have same : entry.1 = other := by simpa using List.find?_some found
      rw [found]
      by_cases here : name = other
      · simp [here, same]
      · simp [here, same, Ne.symm here]
  · rename_i absent
    by_cases here : name = other
    · subst here
      have missing : table.find? (·.1 = name) = none := by
        rw [List.find?_eq_none]
        intro entry member same
        exact absent (List.any_eq_true.mpr ⟨entry, member, same⟩)
      simp [List.find?_append, missing]
    · simp [List.find?_append, here]

end Tables

/-! ### What a document assigns -/

/-- A name, and the entry whose key is assigned to it. -/
structure KeyAssignment (Key : Type) where
  name : PyStr
  entry : JwkEntry Key
  key : Key

section Documents
variable {Key : Type}

/-- The `kid` of the entry, when it is not empty. -/
def JwkEntry.ownKid (entry : JwkEntry Key) : Option PyStr := entry.kid.filter (· ≠ [])

/-- The valid entries with their names in the order of the document: a name is generated from
the number of the names so far. -/
def assignmentsFrom (names : List PyStr) : List (JwkEntry Key) → List (KeyAssignment Key)
  | [] => []
  | entry :: rest =>
    match entry.jwk with
    | none => assignmentsFrom names rest
    | some jwk =>
      let name := entry.ownKid.getD (lit "_anon_" ++ digits names.length)
      ⟨name, entry, jwk⟩ :: assignmentsFrom (if name ∈ names then names else names ++ [name]) rest

def assignments (document : List (JwkEntry Key)) : List (KeyAssignment Key) :=
  assignmentsFrom [] document

/-- The last assignment to a name. -/
def lastUnder (document : List (JwkEntry Key)) (name : PyStr) : Option (KeyAssignment Key) :=
  (assignments document).reverse.find? (·.name = name)

/-- A valid entry of the document declares the `kid` with this key. -/
def Declares (document : List (JwkEntry Key)) (kid : PyStr) (key : Key) : Prop :=
  ∃ entry ∈ document, entry.jwk = some key ∧ entry.ownKid = some kid

/-- The names for the lookup are those that entries declare: where an entry without a `kid`
comes last under a name, an entry that declares the name has the same key. -/
def NamesDeclared (document : List (JwkEntry Key)) (kid : PyStr) : Prop :=
  ∀ assignment, lastUnder document kid = some assignment → assignment.entry.ownKid = none →
    Declares document kid assignment.key

def assignAll (table : List (PyStr × Key)) (list : List (KeyAssignment Key)) :
    List (PyStr × Key) :=
  list.foldl (fun table assignment => assignKey table assignment.name assignment.key) table

theorem applyDocument_keys (client : JwksClient Key) (document : List (JwkEntry Key)) (now : Rat) :
    (client.applyDocument document now).keys = assignAll [] (assignments document) := by
  have from_table : ∀ table : List (PyStr × Key),
      document.foldl (fun keys entry =>
        match entry.jwk with
        | none => keys
        | some jwk =>
          (entry.kid.filter (· ≠ [])).elim (assignKey keys (lit "_anon_" ++ digits keys.length) jwk)
            fun kid => assignKey keys kid jwk) table =
        assignAll table (assignmentsFrom (table.map (·.1)) document) := by
    induction document with
    | nil => exact fun _ => rfl
    | cons entry rest ih =>
      intro table
      rw [List.foldl_cons, assignmentsFrom]
      rcases valid : entry.jwk with _ | jwk
      · exact ih table
      · rcases own : entry.kid.filter (· ≠ []) with _ | kid
        · dsimp only [Option.elim_none]
          rw [ih, map_fst_assignKey, JwkEntry.ownKid, own, List.length_map]
          rfl
        · dsimp only [Option.elim_some]
          rw [ih, map_fst_assignKey, JwkEntry.ownKid, own]
          rfl
  rw [JwksClient.applyDocument]
  refine Eq.trans (congrArg (List.foldl · [] document) ?_) (from_table [])
  funext keys entry
  rcases entry.jwk with _ | jwk
  · rfl
  · rcases entry.kid.filter (· ≠ []) with _ | kid <;> rfl

theorem lookupKey_assignAll (list : List (KeyAssignment Key)) (name : PyStr) :
    lookupKey (assignAll [] list) name = (list.reverse.find? (·.name = name)).map (·.key) := by
  induction list using List.reverseRecOn with
  | nil => rfl
  | append_singleton front last ih =>
    have added : assignAll [] (front ++ [last]) =
        assignKey (assignAll [] front) last.name last.key := List.foldl_append
    rw [added, lookupKey_assignKey, List.reverse_append, List.reverse_singleton, List.singleton_append,
      List.find?_cons]
    by_cases here : last.name = name
    · simp [here]
    · simp [here, ih]

theorem assignmentsFrom_entry {names : List PyStr} {document : List (JwkEntry Key)}
    {assignment : KeyAssignment Key} (member : assignment ∈ assignmentsFrom names document) :
    assignment.entry ∈ document ∧ assignment.entry.jwk = some assignment.key ∧
      ∀ kid, assignment.entry.ownKid = some kid → assignment.name = kid := by
  induction document generalizing names with
  | nil => exact absurd member List.not_mem_nil
  | cons entry rest ih =>
    rw [assignmentsFrom] at member
    rcases valid : entry.jwk with _ | jwk
    · rw [valid] at member
      obtain ⟨inside, facts⟩ := ih member
      exact ⟨List.mem_cons_of_mem _ inside, facts⟩
    · rw [valid] at member
      rcases List.mem_cons.mp member with rfl | later
      · refine ⟨List.mem_cons_self, valid, fun kid own => ?_⟩
        dsimp only at own ⊢
        rw [own, Option.getD_some]
      · obtain ⟨inside, facts⟩ := ih later
        exact ⟨List.mem_cons_of_mem _ inside, facts⟩

/-- The key under a name is declared exactly when no entry without a `kid` is in the way. -/
theorem declares_iff {document : List (JwkEntry Key)} {kid : PyStr} :
    (∀ found, lookupKey (assignAll [] (assignments document)) kid = some found →
      Declares document kid found) ↔ NamesDeclared document kid := by
  rw [lookupKey_assignAll, ← lastUnder]
  constructor
  · intro declared assignment last _
    exact declared assignment.key (by rw [last]; rfl)
  · intro names found looked
    obtain ⟨assignment, last, rfl⟩ := Option.map_eq_some_iff.mp looked
    have named : assignment.name = kid := by simpa using List.find?_some last
    obtain ⟨inside, valid, own⟩ :=
      assignmentsFrom_entry (List.mem_reverse.mp (List.mem_of_find?_eq_some last))
    rcases declares : assignment.entry.ownKid with _ | other
    · exact names assignment last declares
    · exact ⟨assignment.entry, inside, valid, by rw [declares, ← own other declares, named]⟩

end Documents

/-! ### Histories of the client -/

inductive JwksEvent (Key : Type) where
  | refresh (force : Bool) (now : Rat) (fetched : Except FetchError (List (JwkEntry Key)))
  | clear (now : Rat)
  | lookup (jwt : PyJwt Key) (raw : PyStr) (now : Rat)
      (fetched : Bool → Except FetchError (List (JwkEntry Key)))

namespace JwksClient
variable {Key : Type}

/-- `JWKSClient(…)` -/
def new (ttl : Rat) (staticDocument : Option (List (JwkEntry Key))) (now : Rat) : JwksClient Key :=
  let client : JwksClient Key := ⟨ttl, staticDocument, 0, [], []⟩
  match staticDocument with
  | some document => client.applyDocument document now
  | none => client

/-- The client after an event, which may have raised. -/
def after (client : JwksClient Key) : JwksEvent Key → JwksClient Key
  | .refresh force now fetched =>
    match client.refresh force now fetched with
    | .ok refreshed => refreshed
    | .error _ => client
  | .clear now => client.clear now
  | .lookup jwt raw now fetched => (client.getSigningKey jwt raw now fetched).2

/-- Invariant: the keys are those of the document that was loaded last. -/
def Loaded (client : JwksClient Key) : Prop :=
  client.keys = assignAll [] (assignments client.raw)

variable {client refreshed : JwksClient Key} {jwt : PyJwt Key} {raw kid : PyStr} {now : Rat}
  {fetched : Bool → Except FetchError (List (JwkEntry Key))}

theorem applyDocument_loaded (document : List (JwkEntry Key)) :
    (client.applyDocument document now).Loaded := applyDocument_keys client document now

theorem new_loaded (ttl : Rat) (staticDocument : Option (List (JwkEntry Key))) :
    (new ttl staticDocument now).Loaded := by
  cases staticDocument with
  | none => exact rfl
  | some document => exact applyDocument_loaded document

/-- A refresh keeps the client, or loads the pinned or the fetched document. -/
theorem refresh_cases {force : Bool} {answer : Except FetchError (List (JwkEntry Key))}
    (ran : client.refresh force now answer = .ok refreshed) :
    refreshed = client ∨ ∃ document, (client.staticDocument = some document ∨ answer = .ok document) ∧
      refreshed = client.applyDocument document now := by
  unfold refresh at ran
  split at ran
  · rename_i document pinned
    obtain rfl := Except.ok.inj ran
    split
    · exact .inr ⟨document, .inl pinned, rfl⟩
    · exact .inl rfl
  · split at ran
    · exact .inl (Except.ok.inj ran).symm
    · split at ran
      · exact .inr ⟨_, .inr rfl, (Except.ok.inj ran).symm⟩
      · split at ran
        · cases ran
        · exact .inl (Except.ok.inj ran).symm
      · cases ran

theorem Loaded.refresh {force : Bool} {answer : Except FetchError (List (JwkEntry Key))}
    (loaded : client.Loaded) (ran : client.refresh force now answer = .ok refreshed) :
    refreshed.Loaded := by
  rcases refresh_cases ran with rfl | ⟨document, _, rfl⟩
  · exact loaded
  · exact applyDocument_loaded document

theorem Loaded.lookup (loaded : client.Loaded) :
    (client.getSigningKey jwt raw now fetched).2.Loaded := by
  rw [getSigningKey]
  split
  · exact loaded
  · split
    · exact loaded
    · rename_i first
      have once := loaded.refresh first
      split
      · exact once
      · split
        · exact once
        · split
          · exact once
          · rename_i second
            have twice := once.refresh second
            split
            · exact twice
            · exact twice

theorem Loaded.after (loaded : client.Loaded) (event : JwksEvent Key) :
    (client.after event).Loaded := by
  cases event with
  | refresh force now answer =>
    rw [JwksClient.after]
    split
    · rename_i ran
      exact loaded.refresh ran
    · exact loaded
  | clear now =>
    rw [JwksClient.after, clear]
    split
    · exact applyDocument_loaded _
    · rfl
  | lookup jwt raw now fetched => exact loaded.lookup

theorem Loaded.run (loaded : client.Loaded) (events : List (JwksEvent Key)) :
    (events.foldl JwksClient.after client).Loaded := by
  induction events generalizing client with
  | nil => exact loaded
  | cons event later ih => exact ih (loaded.after event)

/-! ### Lookups -/

/-- A key that the client has under the `kid` after the lookup was given out. -/
theorem getSigningKey_gives {header : JwtHeader} {found : Key}
    (read : jwt.getUnverifiedHeader raw = .ok header) (named : header.kid.filter (· ≠ []) = some kid)
    (first : client.refresh false now (fetched false) = .ok refreshed)
    (has : (client.getSigningKey jwt raw now fetched).2.key kid = some found) :
    (client.getSigningKey jwt raw now fetched).1 = .ok (some found) := by
  rw [getSigningKey] at has ⊢
  simp only [read, first, named] at has ⊢
  rcases cached : refreshed.key kid with _ | key
  · simp only [cached] at has ⊢
    rcases second : refreshed.refresh true now (fetched true) with error | rotated
    · simp only [second, cached] at has
      cases has
    · simp only [second] at has ⊢
      rcases fresh : rotated.key kid with _ | key
      · simp only [fresh] at has
        cases has
      · simp only [fresh, Option.some.injEq] at has ⊢
        rw [has]
  · simp only [cached, Option.some.injEq] at has ⊢
    rw [has]

/-- After every history, a token without a `kid` gets no key, and the key of another one comes
from an entry that declares its `kid`, unless an entry without one is stored there. -/
theorem getSigningKey_declared_iff (ttl start : Rat)
    (staticDocument : Option (List (JwkEntry Key))) (events : List (JwksEvent Key))
    (jwt : PyJwt Key) (raw : PyStr) (now : Rat)
    (fetched : Bool → Except FetchError (List (JwkEntry Key))) (header : JwtHeader)
    (read : jwt.getUnverifiedHeader raw = .ok header) :
    let client := events.foldl after (new ttl staticDocument start)
    let lookup := client.getSigningKey jwt raw now fetched
    (header.kid.filter (· ≠ []) = none → ∀ found, lookup.1 ≠ .ok (some found)) ∧
    ∀ kid, header.kid.filter (· ≠ []) = some kid →
      ((∀ found, lookup.1 = .ok (some found) → Declares lookup.2.raw kid found) ↔
        ((∃ error, client.refresh false now (fetched false) = .error error) ∨
          NamesDeclared lookup.2.raw kid)) := by
  intro client lookup
  have loaded : lookup.2.Loaded := ((new_loaded ttl staticDocument).run events).lookup
  have names {found : Key} (given : lookup.1 = .ok (some found)) :
      ∃ kid, header.kid.filter (· ≠ []) = some kid ∧ lookup.2.key kid = some found := by
    obtain ⟨other, kid, same, named, full, has⟩ := getSigningKey_names given
    obtain rfl := Except.ok.inj (read.symm.trans same)
    exact ⟨kid, Option.filter_eq_some_iff.mpr ⟨named, decide_eq_true full⟩, has⟩
  refine ⟨fun unnamed found given => ?_, fun kid named => ?_⟩
  · obtain ⟨kid, named, _⟩ := names given
    rw [unnamed] at named
    cases named
  · have key (kid : PyStr) : lookup.2.key kid =
        lookupKey (assignAll [] (assignments lookup.2.raw)) kid := congrArg (lookupKey · kid) loaded
    rw [← declares_iff]
    constructor
    · intro sound
      cases first : client.refresh false now (fetched false) with
      | error error => exact .inl ⟨error, rfl⟩
      | ok refreshed =>
        right
        intro found looked
        exact sound found (getSigningKey_gives read named first ((key kid).trans looked))
    · rintro (⟨error, failed⟩ | declared) found given
      · have raised : lookup.1 = .error error := by
          simp only [lookup, getSigningKey, read, failed]
        rw [raised] at given
        cases given
      · obtain ⟨other, same, has⟩ := names given
        obtain rfl := Option.some.inj (named.symm.trans same)
        exact declared found ((key kid).symm.trans has)

end JwksClient

/-- A pinned document with one entry, which has no `kid`. -/
def unnamedEntry : List (JwkEntry PyStr) := [⟨none, some (lit "key")⟩]

def readAnonymous (raw : PyStr) : Option SignedToken :=
  if raw = lit "anon.token.text" then
    some ⟨⟨some (lit "_anon_0"), lit "'_anon_0'"⟩, [], lit "key", lit "RS256"⟩
  else none

def askNobody : Bool → Except FetchError (List (JwkEntry PyStr)) := fun _ =>
  .error (.requestException ⟨.other, lit "ConnectionError", []⟩)

theorem getSigningKey_declared_iff_demo :
    (∀ found, ((JwksClient.new 900 (some unnamedEntry) 0).getSigningKey (signedJwt readAnonymous)
        (lit "anon.token.text") 1 askNobody).1 = .ok (some found) →
      Declares unnamedEntry (lit "_anon_0") found) ↔
      ((∃ error, (JwksClient.new 900 (some unnamedEntry) 0).refresh false 1 (askNobody false) =
        .error error) ∨ NamesDeclared unnamedEntry (lit "_anon_0")) :=
  (JwksClient.getSigningKey_declared_iff 900 0 (some unnamedEntry) [] (signedJwt readAnonymous)
    (lit "anon.token.text") 1 askNobody _ rfl).2 (lit "_anon_0") rfl

/-- A token that names the generated `kid` gets the key of an entry that declares none. -/
theorem anonymous_key_given :
    ¬ ∀ (ttl start : Rat) (staticDocument : Option (List (JwkEntry PyStr)))
      (events : List (JwksEvent PyStr)) (jwt : PyJwt PyStr) (raw : PyStr) (now : Rat)
      (fetched : Bool → Except FetchError (List (JwkEntry PyStr))) (found : PyStr),
      (((events.foldl JwksClient.after (.new ttl staticDocument start)).getSigningKey jwt raw now
          fetched).1 = .ok (some found) →
        ∃ header kid, jwt.getUnverifiedHeader raw = .ok header ∧ header.kid = some kid ∧
          Declares ((events.foldl JwksClient.after (.new ttl staticDocument start)).getSigningKey jwt
            raw now fetched).2.raw kid found) := by
  intro sound
  obtain ⟨header, kid, read, named, entry, member, _, own⟩ := sound 900 0 (some unnamedEntry) []
    (signedJwt readAnonymous) (lit "anon.token.text") 1 askNobody (lit "key") (by rfl)
  obtain rfl := List.mem_singleton.mp member
  cases own

end HostingService

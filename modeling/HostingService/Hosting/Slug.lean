import HostingService.Hosting.World

/-! App name and public URL slug helpers. -/

namespace HostingService

open Program Text

/-- `SLUG_PATTERN` and `APP_NAME_PATTERN` are the same: `^[a-z][a-z0-9-]{2,62}$`. -/
def isLowerLetter (c : Nat) : Bool := 0x61 ≤ c && c ≤ 0x7A

def isSlugChar (c : Nat) : Bool := isLowerLetter c || (0x30 ≤ c && c ≤ 0x39) || c == hyphen

def matchesSlugPattern : PyStr → Bool
  | [] => false
  | first :: rest =>
    isLowerLetter first && rest.all isSlugChar && 2 ≤ rest.length && rest.length ≤ 62

def reservedSlugs : List PyStr :=
  [lit "admin", lit "api", lit "apps", lit "health", lit "hosting", lit "stats", lit "access",
    lit "deployments", lit "preview"]

/-- The two validators differ in the word for what they check. -/
def validateLabel (library : Library) (kind value : PyStr) : Except Error PyStr :=
  let name := library.lower (strip value)
  if !matchesSlugPattern name then
    .error (.valueError (kind ++ lit (" must be 3–63 characters, start with a letter, and " ++
      "contain only lowercase letters, digits, and hyphens.")))
  else if name ∈ reservedSlugs then
    .error (.valueError (kind ++ lit " " ++ library.reprStr name ++ lit " is reserved."))
  else .ok name

def validateAppName (library : Library) (value : PyStr) : Except Error PyStr :=
  validateLabel library (lit "App name") value

def validateSlug (library : Library) (value : PyStr) : Except Error PyStr :=
  validateLabel library (lit "Slug") value

instance neZero_letters : NeZero 26 := ⟨by decide⟩
instance neZero_slugLetters : NeZero 36 := ⟨by decide⟩

/-- The choices of `secrets.choice` for one candidate. -/
structure SlugDraw where
  first : Fin 26
  rest : Fin 11 → Fin 36

/-- `PUBLIC_SLUG_ALPHABET` -/
def slugLetter (choice : Fin 36) : Nat :=
  if choice.val < 26 then 0x61 + choice.val else 0x30 + (choice.val - 26)

def SlugDraw.candidate (draw : SlugDraw) : PyStr :=
  (0x61 + draw.first.val) :: (List.ofFn draw.rest).map slugLetter

/-- The candidates of the loop, in order. -/
def generatePublicSlugFrom (taken : PyStr → Transaction Bool) :
    List SlugDraw → Transaction PyStr
  | [] => throw (.runtimeError (lit "Could not generate a unique public slug."))
  | draw :: draws => do
    if ← taken draw.candidate then generatePublicSlugFrom taken draws
    else return draw.candidate

def generatePublicSlug (taken : PyStr → Transaction Bool) (draws : Fin 32 → SlugDraw) :
    Transaction PyStr :=
  generatePublicSlugFrom taken (List.ofFn draws)

/-! ### The language of names -/

theorem matchesSlugPattern_facts {name : PyStr} (matched : matchesSlugPattern name = true) :
    (∃ first rest, name = first :: rest ∧ isLowerLetter first = true) ∧
      (∀ c ∈ name, isSlugChar c = true) ∧ 3 ≤ name.length ∧ name.length ≤ 63 := by
  cases name with
  | nil => simp [matchesSlugPattern] at matched
  | cons first rest =>
    simp only [matchesSlugPattern, Bool.and_eq_true, decide_eq_true_eq, List.all_eq_true] at matched
    obtain ⟨⟨⟨letter, inner⟩, low⟩, high⟩ := matched
    refine ⟨⟨first, rest, rfl, letter⟩, ?_, Nat.succ_le_succ low, Nat.succ_le_succ high⟩
    intro c member
    rcases List.mem_cons.mp member with rfl | later
    · simp [isSlugChar, letter]
    · exact inner c later

theorem candidate_length (draw : SlugDraw) : draw.candidate.length = 12 := by
  simp [SlugDraw.candidate]

end HostingService

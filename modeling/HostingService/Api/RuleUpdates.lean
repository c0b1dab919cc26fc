import HostingService.Api.RulePolicy
import HostingService.Program.Records

/-! PATCH and rotate-secret requests on one webhook rule, side by side. -/

namespace HostingService

open Program Text Storage

inductive RuleUpdate where
  | patch (fields : RuleFields) (isStaff : Bool)
  | rotateSecret (secret : PyStr)

namespace RuleUpdate

/-- What the handlers do with the rule they have read, and what their `save` writes. -/
def edits : Edits ActionRule Error RuleUpdate where
  edit
    | .patch fields isStaff, rule => rule.patched fields isStaff
    | .rotateSecret secret, rule => .ok (rule.withSecret secret)
  store
    | .patch _ _, edited, _ => edited
    | .rotateSecret _, edited, stored => { stored with config := edited.config }

def suppliesSecret : RuleUpdate → Bool
  | .patch fields _ => fields.secret.any (strip · ≠ [])
  | .rotateSecret _ => true

/-- Only staff can set `allow_private_urls`. -/
def allowsPrivateUrls : RuleUpdate → Bool
  | .patch fields isStaff => isStaff && fields.allowPrivateUrls = some true
  | .rotateSecret _ => false

/-- What a patch takes from the rule that it has read is as it was: the columns that it is not
sent, and for an owner the URL and the flag in any case. -/
structure PatchStands (fields : RuleFields) (isStaff : Bool) (copy stored : ActionRule) : Prop where
  id : stored.id = copy.id
  companyId : stored.companyId = copy.companyId
  name : fields.name = none → stored.name = copy.name
  description : fields.description = none → stored.description = copy.description
  eventType : fields.eventType = none → stored.eventType = copy.eventType
  enabled : fields.enabled = none → stored.enabled = copy.enabled
  url : fields.url = none ∨ isStaff = false → stored.config.url = copy.config.url
  secret : (∀ given, fields.secret = some given → strip given = []) →
    stored.config.secret = copy.config.secret
  authorizationHeader : fields.authorizationHeader = none →
    stored.config.authorizationHeader = copy.config.authorizationHeader
  allowPrivateUrls : fields.allowPrivateUrls = none ∨ isStaff = false →
    stored.config.allowPrivateUrls = copy.config.allowPrivateUrls

/-- What a request takes from the rule that it has read stands in the rule that it saves over. A
rotation saves the config alone, and takes all of it but the secret. -/
def Stands : RuleUpdate → ActionRule → ActionRule → Prop
  | .patch fields isStaff, copy, stored => PatchStands fields isStaff copy stored
  | .rotateSecret _, copy, stored => stored.config.url = copy.config.url ∧
      stored.config.authorizationHeader = copy.config.authorizationHeader ∧
      stored.config.allowPrivateUrls = copy.config.allowPrivateUrls

end RuleUpdate

section
variable {existing config : WebhookConfig} {fields : RuleFields} {isStaff : Bool} {generated : PyStr}

/-- What a patch makes of the secret and the flag, whatever it makes of the URL. -/
theorem buildWebhookConfig_patch
    (built : buildWebhookConfig existing fields isStaff true generated = .ok config) :
    config.secret = (match fields.secret with
      | some given => if strip given ≠ [] then strip given else existing.secret
      | none => existing.secret) ∧
    (config.allowPrivateUrls = if isStaff then
      fields.allowPrivateUrls.getD existing.allowPrivateUrls
      else existing.allowPrivateUrls && !(fields.url.isSome &&
        strip (fields.url.getD existing.url) ≠ strip existing.url)) := by
  simp only [buildWebhookConfig] at built
  generalize chosen : (if (fields.url.isSome || !true) = true then
    strip (fields.url.getD existing.url) else existing.url) = url at built
  split at built
  · contradiction
  · obtain rfl := Except.ok.inj built
    refine ⟨by cases fields.secret <;> simp, ?_⟩
    cases isStaff with
    | true => rfl
    | false =>
      rcases given : fields.url with _ | text
      · simp
      · obtain rfl : strip text = url := by simpa [given] using chosen
        by_cases same : strip text = strip existing.url
        · simp [same]
        · simp [same]

theorem buildWebhookConfig_secret
    (built : buildWebhookConfig existing fields isStaff true generated = .ok config)
    (quiet : fields.secret.any (strip · ≠ []) = false) : config.secret = existing.secret := by
  rw [(buildWebhookConfig_patch built).1]
  rcases given : fields.secret with _ | secret
  · rfl
  · have blank : strip secret = [] := by simpa [given] using quiet
    simp [blank]

theorem buildWebhookConfig_public
    (built : buildWebhookConfig existing fields isStaff true generated = .ok config)
    (quiet : (isStaff && fields.allowPrivateUrls = some true) = false)
    (cleared : existing.allowPrivateUrls = false) : config.allowPrivateUrls = false := by
  rw [(buildWebhookConfig_patch built).2]
  cases isStaff with
  | true =>
    rcases given : fields.allowPrivateUrls with _ | allowed
    · simpa [given] using cleared
    · simpa [given] using quiet
  | false => simp [cleared]

theorem buildWebhookConfig_cleared
    (built : buildWebhookConfig existing fields true true generated = .ok config)
    (clears : fields.allowPrivateUrls = some false) : config.allowPrivateUrls = false := by
  rw [(buildWebhookConfig_patch built).2]
  simp [clears]

end

namespace RuleUpdate
variable {update : RuleUpdate} {rule copy edited : ActionRule}

theorem store_secret (made : edits.edit update copy = .ok edited)
    (quiet : update.suppliesSecret = false) :
    (edits.store update edited copy).config.secret = copy.config.secret := by
  cases update with
  | patch fields isStaff => exact buildWebhookConfig_secret (ActionRule.patched_config made) quiet
  | rotateSecret secret => contradiction

theorem store_public (made : edits.edit update copy = .ok edited)
    (quiet : update.allowsPrivateUrls = false) (cleared : copy.config.allowPrivateUrls = false) :
    (edits.store update edited copy).config.allowPrivateUrls = false := by
  cases update with
  | patch fields isStaff =>
    exact buildWebhookConfig_public (ActionRule.patched_config made) quiet cleared
  | rotateSecret secret =>
    obtain rfl := Except.ok.inj made
    exact cleared

/-! ### Saves that lose nothing -/

theorem PatchStands.config {fields : RuleFields} {isStaff : Bool} {stored : ActionRule}
    (stands : PatchStands fields isStaff copy stored) :
    buildWebhookConfig stored.config fields isStaff true [] =
      buildWebhookConfig copy.config fields isStaff true [] := by
  have header : (fields.authorizationHeader.map strip).getD stored.config.authorizationHeader =
      (fields.authorizationHeader.map strip).getD copy.config.authorizationHeader := by
    rcases given : fields.authorizationHeader with _ | text
    · exact stands.authorizationHeader given
    · rfl
  have secret (given : PyStr) (sent : fields.secret = some given) :
      (if strip given = [] then stored.config.secret else strip given) =
        if strip given = [] then copy.config.secret else strip given := by
    split
    · rename_i blank
      refine stands.secret fun other same => ?_
      obtain rfl := Option.some.inj (sent.symm.trans same)
      exact blank
    · rfl
  simp only [buildWebhookConfig, header, Bool.not_true, Bool.or_false, Bool.and_false]
  cases isStaff with
  | false =>
    have url := stands.url (.inr rfl)
    have flag := stands.allowPrivateUrls (.inr rfl)
    rcases sent : fields.secret with _ | given
    · simp [url, flag, stands.secret (by simp [sent])]
    · simp [url, flag, secret given sent]
  | true =>
    have flag : fields.allowPrivateUrls.getD stored.config.allowPrivateUrls =
        fields.allowPrivateUrls.getD copy.config.allowPrivateUrls := by
      rcases given : fields.allowPrivateUrls with _ | allowed
      · exact stands.allowPrivateUrls (.inl given)
      · rfl
    have url : (if fields.url.isSome = true then strip (fields.url.getD stored.config.url)
        else stored.config.url) =
        if fields.url.isSome = true then strip (fields.url.getD copy.config.url)
        else copy.config.url := by
      rcases given : fields.url with _ | text
      · exact stands.url (.inl given)
      · rfl
    rcases sent : fields.secret with _ | given
    · simp [url, flag, stands.secret (by simp [sent])]
    · simp [url, flag, secret given sent]

/-- A patch makes the same of both rules. -/
theorem PatchStands.patched {fields : RuleFields} {isStaff : Bool} {stored : ActionRule}
    (stands : PatchStands fields isStaff copy stored) :
    stored.patched fields isStaff = copy.patched fields isStaff := by
  have getD {α : Type} {given : Option α} {first second : α} (same : given = none → first = second) :
      given.getD first = given.getD second := by
    rcases given with _ | value
    · exact same rfl
    · rfl
  have built : ∀ config, ({ stored with
        name := fields.name.getD stored.name
        description := fields.description.getD stored.description
        eventType := fields.eventType.getD stored.eventType
        enabled := fields.enabled.getD stored.enabled
        actionKind := .webhook
        config := config } : ActionRule) =
      { copy with
        name := fields.name.getD copy.name
        description := fields.description.getD copy.description
        eventType := fields.eventType.getD copy.eventType
        enabled := fields.enabled.getD copy.enabled
        actionKind := .webhook
        config := config } := by
    intro config
    rw [stands.id, stands.companyId, getD stands.name, getD stands.description,
      getD stands.eventType, getD stands.enabled]
  rw [ActionRule.patched, ActionRule.patched, stands.config]
  simp only [built]

/-- A save stores what its request makes of the stored rule, if all that the request takes from
its copy still stands there. -/
theorem Stands.store {stored : ActionRule} (stands : Stands update copy stored)
    (made : edits.edit update copy = .ok edited) :
    edits.store update edited stored = edits.apply stored update := by
  cases update with
  | patch fields isStaff =>
    have again : edits.edit (.patch fields isStaff) stored = .ok edited :=
      (PatchStands.patched stands).trans made
    rw [edits.apply_edited again]
  | rotateSecret secret =>
    obtain ⟨url, header, flag⟩ := stands
    obtain rfl := Except.ok.inj made
    have again : edits.edit (.rotateSecret secret) stored = .ok (stored.withSecret secret) := rfl
    rw [edits.apply_edited again]
    simp [edits, ActionRule.withSecret, url, header, flag]

/-- Nothing that was saved in between: everything stands. -/
theorem Stands.refl (update : RuleUpdate) (rule : ActionRule) : Stands update rule rule := by
  cases update with
  | patch fields isStaff => constructor <;> intros <;> rfl
  | rotateSecret secret => exact ⟨rfl, rfl, rfl⟩

/-! ### Requests in turn -/

/-- What every edit of a request keeps, the request keeps. -/
theorem apply_kept (kept : ActionRule → Prop) (now : kept rule)
    (keeps : ∀ edited, edits.edit update rule = .ok edited →
      kept (edits.store update edited rule)) : kept (edits.apply rule update) := by
  rcases made : edits.edit update rule with error | edited
  · rw [edits.apply_refused made]
    exact now
  · rw [edits.apply_edited made]
    exact keeps edited made

/-- Of the requests that come in turn, one rotates the secret and no other supplies one. -/
theorem serve_secret {updates : List RuleUpdate} {secret : PyStr}
    (quiet : ∀ update ∈ updates, update = .rotateSecret secret ∨ update.suppliesSecret = false)
    (rotated : .rotateSecret secret ∈ updates ∨ rule.config.secret = secret) :
    (updates.foldl edits.apply rule).config.secret = secret := by
  induction updates generalizing rule with
  | nil => exact rotated.resolve_left List.not_mem_nil
  | cons update updates ih =>
    refine ih (fun other member => quiet other (List.mem_cons_of_mem _ member)) ?_
    rcases quiet update List.mem_cons_self with rfl | still
    · exact .inr rfl
    · rcases rotated with rotates | stored
      · rcases List.mem_cons.mp rotates with rfl | later
        · exact .inr rfl
        · exact .inl later
      · exact .inr (apply_kept (·.config.secret = secret) stored fun edited made =>
          (store_secret made still).trans stored)

theorem serve_public {updates : List RuleUpdate}
    (quiet : ∀ update ∈ updates, update.allowsPrivateUrls = false)
    (cleared : rule.config.allowPrivateUrls = false) :
    (updates.foldl edits.apply rule).config.allowPrivateUrls = false := by
  induction updates generalizing rule with
  | nil => exact cleared
  | cons update updates ih =>
    refine ih (fun other member => quiet other (List.mem_cons_of_mem _ member)) ?_
    have still := quiet update List.mem_cons_self
    exact apply_kept (·.config.allowPrivateUrls = false) cleared fun edited made =>
      store_public made still cleared

/-! ### The views make these updates -/

section
variable {principal : HostingPrincipal} {request : ApiRequest} {id companyId : Nat}
  {world : ApiWorld}

/-- The rules with one of them as it is after an update. -/
def updated (rules : List ActionRule) (rule : ActionRule) (update : RuleUpdate) : List ActionRule :=
  rules.map fun other => if other.id = rule.id then edits.apply rule update else other

theorem updated_refused {rules : List ActionRule} {error : Error}
    (keyed : ∀ other ∈ rules, other.id = rule.id → other = rule)
    (refused : edits.edit update rule = .error error) : updated rules rule update = rules := by
  rw [updated, edits.apply_refused refused]
  conv_rhs => rw [← List.map_id rules]
  refine List.map_congr_left fun other member => ?_
  split
  · rename_i same
    exact (keyed other member same).symm
  · rfl

theorem saveRule_updated {answer : Answer}
    (listed : rule ∈ world.actions.rules) (keys : edited.id = rule.id)
    (made : edits.apply rule update = edited) :
    (world.write (.saveRule edited) answer).2.actions.rules =
      updated world.actions.rules rule update := by
  have stored : world.actions.rules.any (·.id = edited.id) := by
    rw [List.any_eq_true]
    exact ⟨rule, listed, by simp [keys]⟩
  rw [ApiWorld.write, ActionsChange.apply, if_pos stored, updated, made, keys]

variable (owner : requireStaffOrCompanyOwner principal request = .ok companyId)
  (found : world.actions.rules.find? (fun rule => rule.id = id && rule.companyId = companyId) =
    some rule)
include owner found

theorem patchView_updates {fields : RuleFields} (body : request.body.rule = some fields)
    (keyed : ∀ other ∈ world.actions.rules, other.id = rule.id → other = rule) :
    (actionRuleDetailViewPatch principal request id world).2.actions.rules =
      updated world.actions.rules rule (.patch fields principal.isStaff) := by
  rw [actionRuleDetailViewPatch, ruleView, companyView, owner]
  simp only [found, body]
  rcases made : edits.edit (.patch fields principal.isStaff) rule with error | edited
  all_goals rw [show rule.patched fields principal.isStaff = _ from made]
  · exact (updated_refused keyed made).symm
  · exact saveRule_updated (List.mem_of_find?_eq_some found) (ActionRule.patched_keys made).1
      (edits.apply_edited made)

theorem rotateView_updates :
    (actionRuleRotateSecretViewPost principal request id world).2.actions.rules =
      updated world.actions.rules rule (.rotateSecret request.draws.webhookSecret) := by
  rw [actionRuleRotateSecretViewPost, ruleView, companyView, owner]
  simp only [found]
  exact saveRule_updated (List.mem_of_find?_eq_some found) rfl rfl

end

/-! ### Side by side -/

abbrev Crew := Edits.Crew ActionRule Error RuleUpdate

/-- Where the requests that save between the read and the save of another one leave alone what
that one takes from its copy, the requests come in an order, and what a request was told stays
true until another request changes it. -/
theorem rule_updates_sequential {crew : Crew} (path : edits.Reaches ⟨rule, []⟩ crew)
    (untouched : ∀ thread ∈ crew.threads, Edits.Untouched Stands thread) :
    (∃ order : List RuleUpdate, order.Perm (Edits.finished crew) ∧
      crew.shared = order.foldl edits.apply rule) ∧
    ∀ update before after, edits.Reaches ⟨rule, []⟩ before → Edits.Answers update before after →
      edits.Reaches after crew → ∃ later,
        (Edits.finished crew).Perm (Edits.finished after ++ later) ∧
        (∀ secret, update = .rotateSecret secret →
          (∀ other ∈ later, other.suppliesSecret = false) → crew.shared.config.secret = secret) ∧
        (∀ fields, update = .patch fields true → fields.allowPrivateUrls = some false →
          (∀ other ∈ later, other.allowsPrivateUrls = false) →
            crew.shared.config.allowPrivateUrls = false) := by
  have lossless : ∀ thread ∈ crew.threads, edits.Lossless thread := fun thread member =>
    (Edits.reaches_formed Edits.formed_start path thread member).lossless
      (fun _ _ _ _ stands made => stands.store made) (untouched thread member)
  constructor
  · obtain ⟨order, ended, made⟩ := Edits.reaches_serves Edits.formed_start path lossless
    exact ⟨order, ended.symm, made⟩
  · intro update before after started answered rest
    have formed := Edits.reaches_formed Edits.formed_start started
    obtain ⟨copy, edited, made, stored⟩ := answered.stores formed
    obtain ⟨later, ended, becomes⟩ := Edits.reaches_serves
      (Edits.step_formed answered.step formed) rest lossless
    refine ⟨later, ended, fun secret rotates quiet => ?_, fun fields patches clears quiet => ?_⟩
    · subst rotates
      obtain rfl := Except.ok.inj made
      rw [becomes]
      exact serve_secret (fun other member => .inr (quiet other member))
        (.inr (congrArg (·.config.secret) stored))
    · subst patches
      rw [becomes]
      refine serve_public quiet ((congrArg (·.config.allowPrivateUrls) stored).trans ?_)
      exact buildWebhookConfig_cleared (ActionRule.patched_config made) clears

/-! An owner renames the rule while its secret is rotated and staff clear the flag. -/

def rename : RuleUpdate :=
  .patch ⟨some (lit "renamed"), none, none, none, none, none, none, none⟩ false

def rotate : RuleUpdate := .rotateSecret (lit "fresh")

def clear : RuleUpdate := .patch ⟨none, none, none, none, none, none, none, some false⟩ true

def privateRule : ActionRule :=
  { hookRule with config := { hookRule.config with allowPrivateUrls := true } }

/-- The thread of a request after some calls, and the rule then. -/
def sent (update : RuleUpdate) (calls : Nat) (rule : ActionRule) :
    Edits.Thread ActionRule Error RuleUpdate × ActionRule :=
  Thread.after RecordCall.handle calls ⟨update, edits.program update, []⟩ rule

theorem sent_reached (update : RuleUpdate) (calls : Nat) {crew : Crew}
    (path : edits.Reaches ⟨rule, []⟩ crew) :
    edits.Reaches ⟨rule, []⟩ ⟨(sent update calls crew.shared).2,
      (sent update calls crew.shared).1 :: crew.threads⟩ :=
  (path.tail (.arrive update)).trans (Crew.Reaches.after calls _ _ [] crew.threads)

/-- The rename is saved between the read and the save of the rotation, and the flag is cleared
after both. -/
def crossing : Crew :=
  let asked := sent rotate 1 privateRule
  let renamed := sent rename 2 asked.2
  let rotated := Thread.after RecordCall.handle 1 asked.1 renamed.2
  let cleared := sent clear 2 rotated.2
  ⟨cleared.2, [cleared.1, renamed.1, rotated.1]⟩

theorem crossing_reached : edits.Reaches ⟨privateRule, []⟩ crossing := by
  have asks := sent_reached rotate 1 (.refl : edits.Reaches ⟨privateRule, []⟩ ⟨privateRule, []⟩)
  have renames := sent_reached rename 2 asks
  have rotates := renames.trans (Crew.Reaches.after 1 _ _ [_] [])
  have clears := sent_reached clear 2 rotates
  exact clears

/-- A rotation takes no name from its copy. -/
theorem crossing_untouched : ∀ thread ∈ crossing.threads, Edits.Untouched Stands thread := by
  intro thread member
  simp only [crossing, List.mem_cons, List.not_mem_nil, or_false] at member
  have alone {rule : ActionRule} {change : ActionRule → ActionRule}
      {thread : Edits.Thread ActionRule Error RuleUpdate}
      (log : thread.log = [⟨.read, rule⟩, ⟨.write change, rule⟩]) :
      Edits.Untouched Stands thread := by
    have quiet : Edits.Quietly edits ⟨rule, []⟩ ⟨rule, []⟩ := .refl
    exact quiet.untouched Stands.refl log
  rcases member with rfl | rfl | rfl
  · exact alone rfl
  · exact alone rfl
  · intro copy read record written
    obtain rfl := List.mem_singleton.mp read
    obtain rfl := List.mem_singleton.mp written
    exact ⟨rfl, rfl, rfl⟩

theorem crossing_sequential :
    ((∃ order : List RuleUpdate, order.Perm (Edits.finished crossing) ∧
      crossing.shared = order.foldl edits.apply privateRule) ∧
    ∀ update before after, edits.Reaches ⟨privateRule, []⟩ before →
      Edits.Answers update before after → edits.Reaches after crossing → ∃ later,
        (Edits.finished crossing).Perm (Edits.finished after ++ later) ∧
        (∀ secret, update = .rotateSecret secret →
          (∀ other ∈ later, other.suppliesSecret = false) → crossing.shared.config.secret = secret) ∧
        (∀ fields, update = .patch fields true → fields.allowPrivateUrls = some false →
          (∀ other ∈ later, other.allowsPrivateUrls = false) →
            crossing.shared.config.allowPrivateUrls = false)) ∧
    crossing.shared.config.secret = lit "fresh" ∧ crossing.shared.name = lit "renamed" ∧
    crossing.shared.config.allowPrivateUrls = false :=
  ⟨rule_updates_sequential crossing_reached crossing_untouched, by decide +kernel, by decide +kernel,
    by decide +kernel⟩

/-- The rename has read the rule before the others and saves it after them. -/
def overtaken : Crew :=
  let asked := sent rename 1 privateRule
  let rotated := sent rotate 2 asked.2
  let cleared := sent clear 2 rotated.2
  let renamed := Thread.after RecordCall.handle 1 asked.1 cleared.2
  ⟨renamed.2, [cleared.1, rotated.1, renamed.1]⟩

theorem overtaken_reached : edits.Reaches ⟨privateRule, []⟩ overtaken :=
  have waits := sent_reached clear 2 (sent_reached rotate 2 (sent_reached rename 1 .refl))
  waits.trans (Crew.Reaches.after 1 _ _ [_, _] [])

theorem overtaken_finished : Edits.finished overtaken = [clear, rotate, rename] := rfl

/-- Every order keeps the rotated secret. -/
theorem ordered_secret {order : List RuleUpdate} (same : order.Perm [clear, rotate, rename]) :
    (order.foldl edits.apply privateRule).config.secret = lit "fresh" := by
  refine serve_secret (fun update member => ?_) (.inl (same.mem_iff.mpr (by simp [rotate])))
  have listed := same.mem_iff.mp member
  simp only [List.mem_cons, List.not_mem_nil, or_false] at listed
  rcases listed with rfl | rfl | rfl
  · exact .inr rfl
  · exact .inl rfl
  · exact .inr rfl

/-- The old secret is back and so is the flag, as after no order of the three requests. -/
theorem rename_undoes_others :
    edits.Reaches ⟨privateRule, []⟩ overtaken ∧
    Edits.finished overtaken = [clear, rotate, rename] ∧
    (∀ order : List RuleUpdate, order.Perm (Edits.finished overtaken) →
      overtaken.shared ≠ order.foldl edits.apply privateRule) ∧
    rename.suppliesSecret = false ∧ clear.suppliesSecret = false ∧
    overtaken.shared.config.secret = privateRule.config.secret ∧
    rename.allowsPrivateUrls = false ∧ overtaken.shared.config.allowPrivateUrls = true := by
  have undone : overtaken.shared.config.secret = privateRule.config.secret := by decide +kernel
  refine ⟨overtaken_reached, overtaken_finished, fun order same stored => ?_, rfl, rfl, undone, rfl,
    by decide +kernel⟩
  rw [overtaken_finished] at same
  rw [stored, ordered_secret same] at undone
  exact absurd undone (by decide)

end RuleUpdate

end HostingService

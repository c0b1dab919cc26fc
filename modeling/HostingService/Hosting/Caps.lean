import HostingService.Hosting.Uploads

/-! Extraction keeps to its three limits at every moment, and fails only over one of them. -/

namespace HostingService

open Program Text Storage

/-- A regular file with a safe name. -/
def TarMember.accepted (member : TarMember) : Bool :=
  member.isfile && (safeMemberName member.name).isSome

/-- The member opens, and its stream can be read to its end. -/
def TarMember.Reads (member : TarMember) (content : Bytes) : Prop :=
  ∃ stream, member.extractfile = .ok (some stream) ∧
    (stream.failure = none ∨ [] ∈ stream.chunks) ∧ stream.body = content

/-- The bytes that the member's stream gives. -/
def TarMember.streamed (member : TarMember) : Bytes :=
  match member.extractfile with
  | .ok (some stream) => stream.body
  | _ => []

/-- The contents that were written are within the limits; a negative number of files stands
for none. -/
structure Capped (limits : ExtractLimits) (written : List Bytes) : Prop where
  files : written.length ≤ limits.maxFiles.toNat
  each : ∀ content ∈ written, content.length ≤ limits.maxFileBytes
  total : (written.map List.length).sum ≤ limits.maxTotalBytes

/-- What the limits ask of the accepted members of an archive, all of which can be read. -/
structure Admissible (limits : ExtractLimits) (members : List TarMember) : Prop where
  readable : ∀ member ∈ members, ∃ content, member.Reads content
  files : members.length ≤ limits.maxFiles.toNat
  header : ∀ member ∈ members, member.size ≤ limits.maxFileBytes
  each : ∀ member ∈ members, member.streamed.length ≤ limits.maxFileBytes
  total : (members.map fun member => member.streamed.length).sum ≤ limits.maxTotalBytes

/-- The storage with a list of the contents that were written to it, or tried to. -/
def logSaves {σ : Type} (handle : Handler StorageCall Error σ) :
    Handler StorageCall Error (σ × List Bytes)
  | _, .save key content, (state, written) =>
    ((handle _ (.save key content) state).1, (handle _ (.save key content) state).2,
      written ++ [content])
  | _, op, (state, written) => ((handle _ op state).1, (handle _ op state).2, written)

/-! ### One member -/

section
variable {limits : ExtractLimits} {progress : Progress} {member : TarMember}

/-- The read loop returns the whole stream, if it ends within the limit. -/
theorem readUpTo_iff {limit : Nat} {beyond : Error} {failure : Option Error} {chunks : List Bytes}
    {content read : Bytes} (within : content.length ≤ limit) :
    readUpTo limit beyond failure chunks content = .ok read ↔
      (failure = none ∨ [] ∈ chunks) ∧ content ++ (chunks.takeWhile (· ≠ [])).flatten = read ∧
        read.length ≤ limit := by
  constructor
  · intro ended
    obtain ⟨same, bounded⟩ := readUpTo_ok within ended
    refine ⟨?_, same.symm, bounded⟩
    clear same bounded
    induction chunks generalizing content with
    | nil =>
      cases failure with
      | none => exact .inl rfl
      | some error => contradiction
    | cons chunk chunks ih =>
      rw [readUpTo] at ended
      by_cases empty : chunk = []
      · exact .inr (by simp [empty])
      · rw [if_neg empty] at ended
        split at ended
        · contradiction
        · rename_i fits
          exact (ih (Nat.le_of_not_gt fits) ended).imp_right (List.mem_cons_of_mem chunk)
  · rintro ⟨ends, rfl, bounded⟩
    induction chunks generalizing content with
    | nil =>
      obtain rfl : failure = none := ends.resolve_right List.not_mem_nil
      rw [readUpTo]
      simp
    | cons chunk chunks ih =>
      rw [readUpTo]
      by_cases empty : chunk = []
      · simp [empty]
      · have later : failure = none ∨ [] ∈ chunks :=
          ends.imp_right fun member => (List.mem_cons.mp member).resolve_left (Ne.symm empty)
        rw [List.takeWhile_cons_of_pos (by simpa using empty), List.flatten_cons,
          ← List.append_assoc] at bounded ⊢
        have fits : (content ++ chunk).length ≤ limit := by
          rw [List.length_append] at bounded
          omega
        rw [if_neg empty, if_neg (Nat.not_lt.mpr fits)]
        exact ih fits later bounded

theorem readMemberLimited_iff {stream : Stream LibraryError} {content : Bytes} :
    readMemberLimited limits stream = .ok content ↔
      (stream.failure = none ∨ [] ∈ stream.chunks) ∧ stream.body = content ∧
        content.length ≤ limits.maxFileBytes := by
  rw [readMemberLimited, readUpTo_iff (Nat.zero_le _), Option.map_eq_none_iff]
  rfl

theorem acceptMember_skipped (skipped : member.accepted = false) :
    acceptMember limits progress member = .ok none := by
  rw [TarMember.accepted, Bool.and_eq_false_iff] at skipped
  rw [acceptMember]
  rcases skipped with other | unsafeName
  · rw [other]
    rfl
  · cases member.isfile with
    | false => rfl
    | true =>
      rcases named : safeMemberName member.name with _ | rel
      · rfl
      · rw [named] at unsafeName
        contradiction

/-- A member is stored when it fits under each limit, and else an error ends the loop. -/
theorem acceptMember_accepted (accepted : member.accepted = true)
    (regular : member.extractfile ≠ .ok none) :
    (∃ error, acceptMember limits progress member = .error error) ∧
        ¬ (progress.count < limits.maxFiles.toNat ∧ member.size ≤ limits.maxFileBytes ∧
          ∃ content, member.Reads content ∧ content.length ≤ limits.maxFileBytes ∧
            progress.totalBytes + content.length ≤ limits.maxTotalBytes) ∨
      ∃ file, acceptMember limits progress member = .ok (some file) ∧
        progress.count < limits.maxFiles.toNat ∧ member.size ≤ limits.maxFileBytes ∧
          member.Reads file.2 ∧ file.2.length ≤ limits.maxFileBytes ∧
            progress.totalBytes + file.2.length ≤ limits.maxTotalBytes := by
  rw [TarMember.accepted, Bool.and_eq_true, Option.isSome_iff_exists] at accepted
  obtain ⟨file, rel, named⟩ := accepted
  have full : rel ≠ [] := (normalizeRelativePath_safe named).1.ne_nil
  rw [acceptMember, file, named]
  simp only [Bool.not_true, Bool.false_eq_true, if_false, if_neg full]
  by_cases room : (progress.count : Int) ≥ limits.maxFiles
  · rw [if_pos room]
    refine .inl ⟨⟨_, rfl⟩, fun fits => ?_⟩
    have below := fits.1
    omega
  · rw [if_neg room]
    have below : progress.count < limits.maxFiles.toNat := by omega
    by_cases large : member.size > limits.maxFileBytes
    · rw [if_pos large]
      exact .inl ⟨⟨_, rfl⟩, fun fits => absurd fits.2.1 (Nat.not_le.mpr large)⟩
    · rw [if_neg large]
      have small := Nat.le_of_not_gt large
      rcases opened : member.extractfile with error | _ | stream
      · refine .inl ⟨⟨_, rfl⟩, ?_⟩
        rintro ⟨_, _, content, ⟨stream, opens, _⟩, _⟩
        rw [opened] at opens
        contradiction
      · exact absurd opened regular
      · have only {content : Bytes} (reads : member.Reads content) :
            (stream.failure = none ∨ [] ∈ stream.chunks) ∧ stream.body = content := by
          obtain ⟨other, opens, ends, body⟩ := reads
          rw [opened] at opens
          obtain rfl := Option.some.inj (Except.ok.inj opens)
          exact ⟨ends, body⟩
        simp only
        rcases read : readMemberLimited limits stream with error | content
        · refine .inl ⟨⟨_, rfl⟩, ?_⟩
          rintro ⟨_, _, content, reads, bounded, _⟩
          obtain ⟨ends, body⟩ := only reads
          rw [readMemberLimited_iff.mpr ⟨ends, body, bounded⟩] at read
          contradiction
        · obtain ⟨ends, body, bounded⟩ := readMemberLimited_iff.mp read
          simp only
          by_cases beyond : progress.totalBytes + content.length > limits.maxTotalBytes
          · rw [if_pos beyond]
            refine .inl ⟨⟨_, rfl⟩, ?_⟩
            rintro ⟨_, _, other, reads, _, total⟩
            obtain rfl : content = other := body.symm.trans (only reads).2
            omega
          · rw [if_neg beyond]
            exact .inr ⟨(rel, content), rfl, below, small, ⟨stream, opened, ends, body⟩, bounded,
              Nat.le_of_not_gt beyond⟩

/-- What is stored of a member fits under each limit. -/
theorem acceptMember_fits {file : SiteFile}
    (stored : acceptMember limits progress member = .ok (some file)) :
    progress.count < limits.maxFiles.toNat ∧ file.2.length ≤ limits.maxFileBytes ∧
      progress.totalBytes + file.2.length ≤ limits.maxTotalBytes := by
  have regular : member.extractfile ≠ .ok none := by
    intro absent
    unfold acceptMember at stored
    rw [absent] at stored
    repeat' split at stored
    all_goals simp_all
  cases accepted : member.accepted with
  | false =>
    rw [acceptMember_skipped accepted] at stored
    exact absurd (Except.ok.inj stored) (by simp)
  | true =>
    rcases acceptMember_accepted accepted regular with ⟨⟨error, failed⟩, _⟩ | ⟨other, same, fits⟩
    · rw [failed] at stored
      contradiction
    · rw [same] at stored
      obtain rfl := Option.some.inj (Except.ok.inj stored)
      obtain ⟨room, _, _, bounded, total⟩ := fits
      exact ⟨room, bounded, total⟩

end

/-! ### The loop at every moment -/

section
variable {limits : ExtractLimits} {settings : Settings} {σ : Type}
  {handle : Handler StorageCall Error σ} {written : List Bytes}

theorem Capped.nothing (limits : ExtractLimits) : Capped limits [] :=
  ⟨Nat.zero_le _, fun _ member => absurd member List.not_mem_nil, Nat.zero_le _⟩

theorem Capped.concat (capped : Capped limits written) {content : Bytes}
    (room : written.length < limits.maxFiles.toNat)
    (bounded : content.length ≤ limits.maxFileBytes)
    (total : (written.map List.length).sum + content.length ≤ limits.maxTotalBytes) :
    Capped limits (written ++ [content]) where
  files := by
    rw [List.length_append]
    exact room
  each other member := by
    rcases List.mem_append.mp member with earlier | last
    · exact capped.each other earlier
    · obtain rfl := List.mem_singleton.mp last
      exact bounded
  total := by simpa using total

/-- The counters of the loop are those of what was written. -/
def Progress.Counts (progress : Progress) (written : List Bytes) : Prop :=
  progress.count = written.length ∧ progress.totalBytes = (written.map List.length).sum

theorem Progress.Counts.add {progress : Progress} (counts : progress.Counts written)
    (file : SiteFile) : (progress.add file).Counts (written ++ [file.2]) := by
  obtain ⟨count, total⟩ := counts
  constructor
  · rw [List.length_append, ← count]
    rfl
  · rw [List.map_append, List.sum_append, ← total]
    rfl

/-- Replacing a file writes it once, or ends with an error. -/
theorem replaceFile_throughout {key : PyStr} {content : Bytes} {state : σ}
    (before : Capped limits written) (after : Capped limits (written ++ [content])) :
    (replaceFile key content).Throughout (logSaves handle) (fun moment => Capped limits moment.2)
        (state, written) ∧
      ∀ value last, (replaceFile key content).run (logSaves handle) (state, written) =
        (.ok value, last) → last.2 = written ++ [content] := by
  have saves (state : σ) : (Prog.perform (.save key content) : StorageProg Unit).Throughout
      (logSaves handle) (fun moment => Capped limits moment.2) (state, written) :=
    Prog.throughout_perform before after
  have deletes (state : σ) : (Prog.perform (.delete key) : StorageProg Unit).Throughout
      (logSaves handle) (fun moment => Capped limits moment.2) (state, written) :=
    Prog.throughout_perform before before
  have looks : (Prog.perform (.hasKey key) : StorageProg Bool).Throughout
      (logSaves handle) (fun moment => Capped limits moment.2) (state, written) :=
    Prog.throughout_perform before before
  have saved (state : σ) (value : Unit) (last : σ × List Bytes)
      (ran : (Prog.perform (.save key content) : StorageProg Unit).run (logSaves handle)
        (state, written) = (.ok value, last)) : last.2 = written ++ [content] := by
    rw [Prog.run_perform] at ran
    exact (congrArg (fun result => result.2.2) ran).symm
  have asked (stored : Bool) (state : σ) :
      (Prog.when stored (.perform (.delete key)) >>= fun _ => .perform (.save key content) :
          StorageProg Unit).Throughout (logSaves handle) (fun moment => Capped limits moment.2)
          (state, written) ∧
        ∀ value last, (Prog.when stored (.perform (.delete key)) >>= fun _ =>
          .perform (.save key content) : StorageProg Unit).run (logSaves handle) (state, written) =
          (.ok value, last) → last.2 = written ++ [content] := by
    cases stored with
    | false => exact ⟨saves state, saved state⟩
    | true =>
      refine ⟨(deletes state).bind fun _ later ran => ?_, ?_⟩
      · rw [Prog.run_perform] at ran
        obtain rfl := congrArg Prod.snd ran
        exact saves _
      · intro value last ran
        rw [Prog.when_true, Prog.run_bind, Prog.run_perform] at ran
        rcases deleted : logSaves handle _ (.delete key) (state, written) with ⟨error | done, later⟩
        · rw [deleted] at ran
          exact absurd (congrArg Prod.fst ran) (by simp)
        · rw [deleted] at ran
          obtain rfl := congrArg Prod.snd deleted
          exact saved _ value last ran
  constructor
  · refine looks.bind fun stored later ran => ?_
    rw [Prog.run_perform] at ran
    obtain rfl := congrArg Prod.snd ran
    exact (asked stored _).1
  · intro value last ran
    rw [replaceFile, Prog.run_bind, Prog.run_perform] at ran
    rcases looked : logSaves handle _ (.hasKey key) (state, written) with ⟨error | stored, later⟩
    · rw [looked] at ran
      exact absurd (congrArg Prod.fst ran) (by simp)
    · rw [looked] at ran
      obtain rfl := congrArg Prod.snd looked
      exact (asked stored _).2 value last ran

/-- A round keeps the counters and stays within the limits. -/
theorem extractTarMembers_throughout (root : PyStr) (members : List TarMember)
    {progress : Progress} (state : σ) (counts : progress.Counts written)
    (capped : Capped limits written) :
    (extractTarMembers settings limits root members progress).Throughout (logSaves handle)
      (fun moment => Capped limits moment.2) (state, written) := by
  induction members generalizing progress state written with
  | nil => exact capped
  | cons member members ih =>
    rw [extractTarMembers]
    rcases round : acceptMember limits progress member with error | _ | file
    · exact capped
    · exact ih state counts capped
    · obtain ⟨room, bounded, total⟩ := acceptMember_fits round
      obtain ⟨count, sum⟩ := counts
      have more := capped.concat (count ▸ room) bounded (sum ▸ total)
      obtain ⟨each, last⟩ :=
        @replaceFile_throughout limits σ handle written (memberKey settings root file.1) file.2 state
          capped more
      simp only [Prog.ofExcept_ok, Prog.ret_bind]
      refine each.bind fun _ after ran => ?_
      obtain ⟨later, log⟩ := after
      obtain rfl : log = written ++ [file.2] := last _ _ ran
      exact ih later (Progress.Counts.add ⟨count, sum⟩ file) more

end

/-! ### When the loop succeeds -/

section
variable {limits : ExtractLimits}

theorem TarMember.Reads.streamed {member : TarMember} {content : Bytes}
    (reads : member.Reads content) : member.streamed = content := by
  obtain ⟨stream, opened, _, same⟩ := reads
  rw [TarMember.streamed, opened]
  exact same

/-- The limits for the members after some that were stored. -/
structure Admissible.After (limits : ExtractLimits) (progress : Progress)
    (members : List TarMember) : Prop where
  readable : ∀ member ∈ members, ∃ content, member.Reads content
  files : progress.count + members.length ≤ limits.maxFiles.toNat
  header : ∀ member ∈ members, member.size ≤ limits.maxFileBytes
  each : ∀ member ∈ members, member.streamed.length ≤ limits.maxFileBytes
  total : progress.totalBytes + (members.map fun member => member.streamed.length).sum ≤
    limits.maxTotalBytes

theorem Admissible.after_cons {progress : Progress} {member : TarMember}
    {members : List TarMember} {name : PyStr} {content : Bytes} (reads : member.Reads content) :
    Admissible.After limits progress (member :: members) ↔
      member.size ≤ limits.maxFileBytes ∧ content.length ≤ limits.maxFileBytes ∧
        Admissible.After limits (progress.add (name, content)) members := by
  have same := reads.streamed
  constructor
  · intro after
    refine ⟨after.header member (List.mem_cons_self ..), ?_, ?_⟩
    · rw [← same]
      exact after.each member (List.mem_cons_self ..)
    · refine ⟨fun other inside => after.readable other (List.mem_cons_of_mem member inside), ?_,
        fun other inside => after.header other (List.mem_cons_of_mem member inside),
        fun other inside => after.each other (List.mem_cons_of_mem member inside), ?_⟩
      · have files := after.files
        rw [List.length_cons] at files
        simp only [Progress.add]
        omega
      · have total := after.total
        rw [List.map_cons, List.sum_cons, same] at total
        simp only [Progress.add]
        omega
  · rintro ⟨small, bounded, after⟩
    refine ⟨?_, ?_, ?_, ?_, ?_⟩
    · intro other inside
      rcases List.mem_cons.mp inside with rfl | inside
      · exact ⟨content, reads⟩
      · exact after.readable other inside
    · have files := after.files
      simp only [Progress.add] at files
      rw [List.length_cons]
      omega
    · intro other inside
      rcases List.mem_cons.mp inside with rfl | inside
      · exact small
      · exact after.header other inside
    · intro other inside
      rcases List.mem_cons.mp inside with rfl | inside
      · rw [same]
        exact bounded
      · exact after.each other inside
    · have total := after.total
      simp only [Progress.add] at total
      rw [List.map_cons, List.sum_cons, same]
      omega

/-- The loop ends with a count exactly when the accepted members are within the limits. -/
theorem unpack_ok_iff {members : List TarMember}
    (regular : ∀ member ∈ members, member.isfile = true → member.extractfile ≠ .ok none)
    {progress : Progress} (files : progress.count ≤ limits.maxFiles.toNat)
    (total : progress.totalBytes ≤ limits.maxTotalBytes) (count : Nat) :
    (unpack limits members progress).outcome = .ok count ↔
      Admissible.After limits progress (members.filter TarMember.accepted) ∧
        count = progress.count + (members.filter TarMember.accepted).length := by
  induction members generalizing progress with
  | nil =>
    have nothing : Admissible.After limits progress [] :=
      ⟨by simp, by simpa using files, by simp, by simp, by simpa using total⟩
    simp [unpack, nothing, eq_comm]
  | cons member members ih =>
    have later := fun other inside => regular other (List.mem_cons_of_mem member inside)
    rw [unpack]
    cases accepted : member.accepted with
    | false =>
      rw [acceptMember_skipped accepted, List.filter_cons_of_neg (by simp [accepted])]
      exact ih later files total
    | true =>
      have file : member.isfile = true := (Bool.and_eq_true _ _ ▸ accepted).1
      rw [List.filter_cons_of_pos accepted]
      rcases acceptMember_accepted accepted (regular member (List.mem_cons_self ..) file) with
        ⟨⟨error, failed⟩, misfit⟩ | ⟨stored, round, room, small, reads, bounded, fits⟩
      · rw [failed]
        refine iff_of_false (by simp) fun both => misfit ?_
        obtain ⟨content, reads⟩ := both.1.readable member (List.mem_cons_self ..)
        obtain ⟨small, bounded, after⟩ := (@Admissible.after_cons _ _ _ _ [] _ reads).mp both.1
        have count := after.files
        have sum := after.total
        simp only [Progress.add] at count sum
        exact ⟨by omega, small, content, reads, bounded, by omega⟩
      · rw [round]
        simp only
        have count := ih later (show (progress.add stored).count ≤ _ from room)
          (show (progress.add stored).totalBytes ≤ _ from fits)
        rw [count, @Admissible.after_cons _ progress _ _ stored.1 _ reads, List.length_cons]
        have shift : (progress.add stored).count +
            (members.filter TarMember.accepted).length =
            progress.count + ((members.filter TarMember.accepted).length + 1) := by
          simp only [Progress.add]
          omega
        rw [shift]
        constructor
        · rintro ⟨after, same⟩
          exact ⟨⟨small, bounded, after⟩, same⟩
        · rintro ⟨⟨_, _, after⟩, same⟩
          exact ⟨after, same⟩

theorem admissible_after_start {members : List TarMember} :
    Admissible.After limits ⟨0, 0⟩ members ↔ Admissible limits members := by
  constructor
  · intro after
    have files := after.files
    have total := after.total
    rw [Nat.zero_add] at files total
    exact ⟨after.readable, files, after.header, after.each, total⟩
  · intro admissible
    refine ⟨admissible.readable, ?_, admissible.header, admissible.each, ?_⟩
    · rw [Nat.zero_add]
      exact admissible.files
    · rw [Nat.zero_add]
      exact admissible.total

/-- The storage keys of the accepted members, in order. -/
def acceptedKeys (settings : Settings) (root : PyStr) (members : List TarMember) : List PyStr :=
  (members.filter TarMember.accepted).filterMap fun member =>
    (safeMemberName member.name).map (memberKey settings root)

theorem acceptedKeys_cons {settings : Settings} {root : PyStr} {member : TarMember}
    {members : List TarMember} {rel : PyStr} (accepted : member.accepted = true)
    (named : safeMemberName member.name = some rel) :
    acceptedKeys settings root (member :: members) =
      memberKey settings root rel :: acceptedKeys settings root members := by
  rw [acceptedKeys, List.filter_cons_of_pos accepted, List.filterMap_cons, named]
  rfl

/-- When the loop ends well, the files are those of the accepted members. -/
theorem fileKeys_unpack {settings : Settings} {root : PyStr} {members : List TarMember}
    (regular : ∀ member ∈ members, member.isfile = true → member.extractfile ≠ .ok none)
    {progress : Progress} {count : Nat}
    (ends : (unpack limits members progress).outcome = .ok count) :
    fileKeys settings root (unpack limits members progress).files =
      acceptedKeys settings root members := by
  induction members generalizing progress with
  | nil => rfl
  | cons member members ih =>
    have later := fun other inside => regular other (List.mem_cons_of_mem member inside)
    rw [unpack] at ends ⊢
    cases accepted : member.accepted with
    | false =>
      rw [acceptMember_skipped accepted] at ends ⊢
      rw [acceptedKeys, List.filter_cons_of_neg (by simp [accepted])]
      exact ih later ends
    | true =>
      have file : member.isfile = true := (Bool.and_eq_true _ _ ▸ accepted).1
      rcases acceptMember_accepted accepted (regular member (List.mem_cons_self ..) file) with
        ⟨⟨error, failed⟩, _⟩ | ⟨stored, round, _⟩
      · rw [failed] at ends
        cases ends
      · rw [round] at ends ⊢
        rw [acceptedKeys_cons accepted (acceptMember_name round), ← ih later ends]
        rfl

/-- On a store that answers, the loop ends well exactly when the archive does and there is room
for its files. -/
theorem run_extractTarMembers_ok (settings : Settings) (root : PyStr) (members : List TarMember)
    (progress : Progress) (objects : Objects) (count : Nat) :
    ((extractTarMembers settings limits root members progress).run
      (StorageCall.handle (storageBackend settings)) (answering objects)).1 = .ok count ↔
      (unpack limits members progress).outcome = .ok count ∧
        (storageBackend settings).Fits (· ∈ objects)
          (fileKeys settings root (unpack limits members progress).files) := by
  rw [extractTarMembers_eq]
  by_cases fits : (storageBackend settings).Fits (· ∈ objects)
    (fileKeys settings root (unpack limits members progress).files)
  · obtain ⟨after, ran, _⟩ := run_storeFiles settings root fits
    rw [Prog.run_bind_ok _ ran, Prog.run_ofExcept, and_iff_left fits]
  · obtain ⟨refusal, after, ran⟩ := storeFiles_refused settings root fits
    rw [Prog.run_bind_error _ ran]
    exact iff_of_false (fun done => by cases done) fun both => fits both.2

end

/-- Whatever the storage answers, what was written is within the limits at every moment. On a
store that answers, the loop returns the number of the accepted members if they are within the
limits and there is room for them, and fails otherwise. A regular member of an archive opens as
a stream. -/
theorem extractTarMembers_capped (settings : Settings) (limits : ExtractLimits) (root : PyStr)
    (members : List TarMember)
    (regular : ∀ member ∈ members, member.isfile = true → member.extractfile ≠ .ok none) :
    (∀ (σ : Type) (handle : Handler StorageCall Error σ) (state : σ),
      (extractTarMembers settings limits root members ⟨0, 0⟩).Throughout (logSaves handle)
        (fun moment => Capped limits moment.2) (state, [])) ∧
    ∀ objects count, ((extractTarMembers settings limits root members ⟨0, 0⟩).run
        (StorageCall.handle (storageBackend settings)) (answering objects)).1 = .ok count ↔
      Admissible limits (members.filter TarMember.accepted) ∧
        (storageBackend settings).Fits (· ∈ objects) (acceptedKeys settings root members) ∧
        count = (members.filter TarMember.accepted).length := by
  constructor
  · intro σ handle state
    exact extractTarMembers_throughout root members state ⟨rfl, rfl⟩ (Capped.nothing limits)
  · intro objects count
    have ends := @unpack_ok_iff limits members regular ⟨0, 0⟩ (Nat.zero_le _) (Nat.zero_le _) count
    rw [admissible_after_start, Nat.zero_add] at ends
    rw [run_extractTarMembers_ok]
    constructor
    · rintro ⟨done, fits⟩
      rw [fileKeys_unpack regular done] at fits
      exact ⟨(ends.mp done).1, fits, (ends.mp done).2⟩
    · rintro ⟨admissible, fits, counted⟩
      have done := ends.mpr ⟨admissible, counted⟩
      exact ⟨done, fileKeys_unpack regular done ▸ fits⟩

/-- An archive with a folder, an unsafe name and one page. -/
def mixedMembers : List TarMember :=
  [⟨lit "docs", false, 0, .ok none⟩, ⟨lit "../secret", true, 2, .ok (some ⟨[page], none⟩)⟩,
    ⟨lit "docs/index.html", true, 2, .ok (some ⟨[page], none⟩)⟩]

theorem extractTarMembers_capped_mixed :
    (∀ (σ : Type) (handle : Handler StorageCall Error σ) (state : σ),
      (extractTarMembers defaultSettings ⟨1, 2, 2⟩ [] mixedMembers ⟨0, 0⟩).Throughout
        (logSaves handle) (fun moment => Capped ⟨1, 2, 2⟩ moment.2) (state, [])) ∧
    ∀ objects count, ((extractTarMembers defaultSettings ⟨1, 2, 2⟩ [] mixedMembers ⟨0, 0⟩).run
        (StorageCall.handle (storageBackend defaultSettings)) (answering objects)).1 = .ok count ↔
      Admissible ⟨1, 2, 2⟩ (mixedMembers.filter TarMember.accepted) ∧
        (storageBackend defaultSettings).Fits (· ∈ objects)
          (acceptedKeys defaultSettings [] mixedMembers) ∧
        count = (mixedMembers.filter TarMember.accepted).length :=
  extractTarMembers_capped defaultSettings ⟨1, 2, 2⟩ [] mixedMembers (by simp [mixedMembers])

/-- A file, and another one in a folder of the same name. -/
def clashingMembers : List TarMember :=
  [⟨lit "a", true, 2, .ok (some ⟨[page], none⟩)⟩, ⟨lit "a/b", true, 2, .ok (some ⟨[page], none⟩)⟩]

/-- Within all limits, they are refused by the file system. -/
theorem extractTarMembers_clash :
    ¬ ∀ (settings : Settings) (limits : ExtractLimits) (root : PyStr) (members : List TarMember)
        (_ : ∀ member ∈ members, member.isfile = true → member.extractfile ≠ .ok none)
        (objects : Objects) (count : Nat),
      ((extractTarMembers settings limits root members ⟨0, 0⟩).run
          (StorageCall.handle (storageBackend settings)) (answering objects)).1 = .ok count ↔
        Admissible limits (members.filter TarMember.accepted) ∧
          count = (members.filter TarMember.accepted).length := by
  intro always
  have fails : ((extractTarMembers defaultSettings ⟨9, 9, 9⟩ [] clashingMembers ⟨0, 0⟩).run
      (StorageCall.handle (storageBackend defaultSettings)) (answering ∅)).1 ≠ .ok 2 := by
    decide +kernel
  have within : (unpack ⟨9, 9, 9⟩ clashingMembers ⟨0, 0⟩).outcome = .ok 2 := by rfl
  have regular : ∀ member ∈ clashingMembers,
      member.isfile = true → member.extractfile ≠ .ok none := by simp [clashingMembers]
  have admissible := ((unpack_ok_iff regular (Nat.zero_le _) (Nat.zero_le _) 2).mp within).1
  rw [admissible_after_start] at admissible
  exact fails ((always defaultSettings ⟨9, 9, 9⟩ [] clashingMembers regular ∅ 2).mpr
    ⟨admissible, by decide +kernel⟩)

end HostingService

/-
# `AskLake.Realtime.BoundaryIdentity` — whether a fingerprint names one materialization

The text that is fingerprinted has one separator for everything,

    pipeline | topic | partition | from | to | topic | partition | from | to …

and neither an id nor a topic is kept from having it.  Without it in the ids and the topics the
text is read back.  With it, what the id ends with may be what a topic begins with, and the id
may be that of another boundary with its partitions: the text of two partitions is always that
of one partition under a longer id.
-/
import AskLake.Lib.Fields
import AskLake.Realtime.SourceBoundary

namespace AskLake.Realtime

open AskLake.Lib AskLake.Python

/-! ## The identities -/

/-- `materialization_id` -/
def SourceBoundary.materializationId (rt : Runtime) (boundary : SourceBoundary)
    (pipelineVersionId : String) : Except Error String := do
  let fingerprint ← boundary.fingerprint rt pipelineVersionId
  pure ("rtm_" ++ rt.sha256 ("materialization|" ++ pipelineVersionId ++ "|" ++ fingerprint))

/-- The identities of a `ClickHouseMaterialization` -/
structure MaterializationIdentity where
  materializationId : String
  sourceFingerprint : String
  clickhouseQueryId : String
  insertDeduplicationToken : String

/-- `ClickHouseRealtimeCompiler.compile`, as far as the identities go -/
def compileIdentity (rt : Runtime) (boundary : SourceBoundary) (pipelineVersionId : String) :
    Except Error MaterializationIdentity := do
  let sourceFingerprint ← boundary.fingerprint rt pipelineVersionId
  let materializationId ← boundary.materializationId rt pipelineVersionId
  let queryId := "rtq_" ++ rt.sha256 (pipelineVersionId ++ "|" ++ sourceFingerprint)
  pure
    { materializationId
      sourceFingerprint
      clickhouseQueryId := queryId
      insertDeduplicationToken := materializationId }

/-! ## The text behind a fingerprint -/

def PartitionBoundary.letters (b : PartitionBoundary) : List Char := b.line.toList

def digits (n : Int) : List Char := (Int.repr n).toList

theorem separator_not_mem_digits (n : Int) : '|' ∉ digits n := fun h =>
  absurd (Json.isIntChar_of_mem n '|' h) (by decide)

theorem digits_injective : Function.Injective digits := fun _ _ h =>
  Int.repr_inj.mp (String.toList_inj.mp h)

theorem letters_eq (b : PartitionBoundary) :
    b.letters = b.topic.toList ++ '|' :: (digits b.partition ++ '|' ::
      (digits b.fromOffsetExclusive ++ '|' :: digits b.toOffsetInclusive)) := by
  rw [PartitionBoundary.letters, PartitionBoundary.line]
  have hbar : (toString "|").toList = ['|'] := rfl
  simp only [Int.toString_eq_repr, String.toList_append, List.append_assoc, hbar, digits]
  rfl

theorem toList_intercalate (first : String) (lines : List String) :
    ("|".intercalate (first :: lines)).toList =
      first.toList ++ following '|' String.toList lines := by
  induction lines generalizing first with
  | nil => simp [following]
  | cons l lines ih =>
      rw [String.intercalate_cons_cons, String.toList_append, String.toList_append, ih]
      simp [following]

theorem material_eq (boundary : SourceBoundary) (id : String) :
    (boundary.material id).toList =
      id.toList ++ following '|' PartitionBoundary.letters boundary.partitions := by
  rw [SourceBoundary.material, toList_intercalate]
  congr 1
  rw [following, following, List.flatMap_map]
  rfl

/-- Two lines are equal after the topic, and the rest is the text before them. -/
theorem letters_injective {a b : PartitionBoundary} {before before' : List Char}
    (h : before ++ '|' :: a.letters = before' ++ '|' :: b.letters) :
    before ++ '|' :: a.topic.toList = before' ++ '|' :: b.topic.toList ∧
      a.partition = b.partition ∧ a.fromOffsetExclusive = b.fromOffsetExclusive ∧
      a.toOffsetInclusive = b.toOffsetInclusive := by
  rw [letters_eq, letters_eq] at h
  have hall : (((before ++ '|' :: a.topic.toList) ++ '|' :: digits a.partition) ++
      '|' :: digits a.fromOffsetExclusive) ++ '|' :: digits a.toOffsetInclusive =
      (((before' ++ '|' :: b.topic.toList) ++ '|' :: digits b.partition) ++
        '|' :: digits b.fromOffsetExclusive) ++ '|' :: digits b.toOffsetInclusive := by
    simpa using h
  obtain ⟨hfrom, hto⟩ := last_field (separator_not_mem_digits _) (separator_not_mem_digits _) hall
  obtain ⟨hpartition, hfrom⟩ :=
    last_field (separator_not_mem_digits _) (separator_not_mem_digits _) hfrom
  obtain ⟨htopic, hpartition⟩ :=
    last_field (separator_not_mem_digits _) (separator_not_mem_digits _) hpartition
  exact ⟨htopic, digits_injective hpartition, digits_injective hfrom, digits_injective hto⟩

theorem partitionBoundary_eq {a b : PartitionBoundary} (htopic : a.topic = b.topic)
    (hpartition : a.partition = b.partition)
    (hfrom : a.fromOffsetExclusive = b.fromOffsetExclusive)
    (hto : a.toOffsetInclusive = b.toOffsetInclusive) : a = b := by
  obtain ⟨topic, partition, start, last, _, _, _⟩ := a
  obtain ⟨topic', partition', start', last', _, _, _⟩ := b
  obtain rfl : topic = topic' := htopic
  obtain rfl : partition = partition' := hpartition
  obtain rfl : start = start' := hfrom
  obtain rfl : last = last' := hto
  rfl

/-! ## What the constructors accept -/

/-- A pipeline version and a boundary that nothing rejects. -/
structure Accepted (id : String) (boundary : SourceBoundary) : Prop where
  named : blank id = false
  built : ∃ partitions, SourceBoundary.build partitions = .ok boundary

theorem fingerprint_eq {id : String} (h : blank id = false) (rt : Runtime)
    (boundary : SourceBoundary) :
    boundary.fingerprint rt id = .ok (rt.sha256 (boundary.material id)) := by
  rw [SourceBoundary.fingerprint, rejectIf, if_neg (by simp [h])]
  rfl

theorem not_blank_of_separator {text : String} (h : '|' ∈ text.toList) : blank text = false := by
  rw [blank, beq_eq_false_iff_ne]
  exact strip_ne_empty h (by decide)

/-- One partition is a boundary. -/
theorem built_singleton (b : PartitionBoundary) : SourceBoundary.build [b] = .ok ⟨[b]⟩ := by
  rw [SourceBoundary.build, rejectIf, if_neg (by simp)]
  rfl

/-- Nothing of the id can be taken for the topic, and nothing of the topic for the id. -/
structure Uncuttable (id topic : List Char) : Prop where
  id : ∀ u v, id = u ++ '|' :: v → blank (String.ofList u) = true
  topic : ∀ u v, topic = u ++ '|' :: v → blank (String.ofList v) = true

/-- There is no other way to read the text. -/
def OneReading (id : String) (boundary : SourceBoundary) : Prop :=
  ∃ b, boundary.partitions = [b] ∧ Uncuttable id.toList b.topic.toList

/-- Neither the id nor a topic has a separator. -/
def SeparatorFree (id : String) (boundary : SourceBoundary) : Prop :=
  '|' ∉ id.toList ∧ ∀ b ∈ boundary.partitions, '|' ∉ b.topic.toList

/-! ## One input, and all that could share its fingerprint -/

/-- The text of a boundary, cut before its last line. -/
theorem material_append (id : String) (before : List PartitionBoundary) (b : PartitionBoundary) :
    (SourceBoundary.material ⟨before ++ [b]⟩ id).toList =
      (id.toList ++ following '|' PartitionBoundary.letters before) ++ '|' :: b.letters := by
  rw [material_eq, following_append, ← List.append_assoc]
  simp [following]

theorem material_singleton (id : String) (b : PartitionBoundary) :
    (SourceBoundary.material ⟨[b]⟩ id).toList = id.toList ++ '|' :: b.letters := by
  have h := material_append id [] b
  rwa [following, List.flatMap_nil, List.append_nil] at h

/-- `b` under another topic. -/
def PartitionBoundary.renamed (b : PartitionBoundary) (topic : List Char)
    (h : blank (String.ofList topic) = false) : PartitionBoundary :=
  { b with topic := String.ofList topic, identity := ⟨h, b.identity.2⟩ }

theorem letters_renamed (b : PartitionBoundary) (topic : List Char)
    (h : blank (String.ofList topic) = false) (before before' : List Char)
    (heq : before ++ '|' :: b.topic.toList = before' ++ '|' :: topic) :
    before ++ '|' :: b.letters = before' ++ '|' :: (b.renamed topic h).letters := by
  rw [letters_eq, letters_eq]
  have htext : (b.renamed topic h).topic.toList = topic := String.toList_ofList
  rw [htext]
  have hcongr := congrArg (· ++ '|' :: (digits b.partition ++ '|' ::
    (digits b.fromOffsetExclusive ++ '|' :: digits b.toOffsetInclusive))) heq
  simpa [PartitionBoundary.renamed] using hcongr

/-- An input that shares its text with no other can be read in one way only. -/
theorem oneReading_of_unique {id : String} {boundary : SourceBoundary}
    (h : Accepted id boundary)
    (hunique : ∀ id' boundary', Accepted id' boundary' →
      boundary.material id = boundary'.material id' → id = id' ∧ boundary = boundary') :
    OneReading id boundary := by
  obtain ⟨partitions, hbuild⟩ := h.built
  obtain ⟨-, hne, -⟩ := SourceBoundary.build_eq_ok hbuild
  obtain ⟨items⟩ := boundary
  obtain ⟨before, b, rfl⟩ : ∃ before b, items = before ++ [b] :=
    ⟨_, _, (List.dropLast_concat_getLast hne).symm⟩
  -- all lines but the last one can go to the id
  have hbefore : before = [] := by
    by_contra hsome
    have hbar : '|' ∈ following '|' PartitionBoundary.letters before := by
      cases before with
      | nil => exact absurd rfl hsome
      | cons first rest => exact List.mem_cons_self
    have hnamed : blank (String.ofList
        (id.toList ++ following '|' PartitionBoundary.letters before)) = false :=
      not_blank_of_separator (by rw [String.toList_ofList]; exact List.mem_append_right _ hbar)
    obtain ⟨-, hone⟩ := hunique _ ⟨[b]⟩ ⟨hnamed, [b], built_singleton b⟩ (by
      rw [← String.toList_inj, material_append, material_singleton, String.toList_ofList])
    have hlength := congrArg (fun boundary => boundary.partitions.length) hone
    simp only [List.length_append, List.length_singleton] at hlength
    exact hsome (List.length_eq_zero_iff.mp (by omega))
  subst hbefore
  refine ⟨b, rfl, fun u v huv => ?_, fun u v huv => ?_⟩
  · -- the end of the id can go to the topic
    by_contra hblank
    have hrenamed : blank (String.ofList (v ++ '|' :: b.topic.toList)) = false :=
      not_blank_of_separator (by simp)
    obtain ⟨hid, -⟩ := hunique (String.ofList u) ⟨[b.renamed _ hrenamed]⟩
      ⟨by simpa using hblank, _, built_singleton _⟩ (by
        rw [← String.toList_inj, List.nil_append, material_singleton, material_singleton,
          String.toList_ofList]
        exact letters_renamed b _ hrenamed _ _ (by rw [huv]; simp))
    have hlength := congrArg (fun text => text.toList.length) hid
    simp only [huv, String.toList_ofList, List.length_append, List.length_cons] at hlength
    omega
  · -- the beginning of the topic can go to the id
    by_contra hblank
    have hnamed : blank (String.ofList (id.toList ++ '|' :: u)) = false :=
      not_blank_of_separator (by simp)
    have hrenamed : blank (String.ofList v) = false := by simpa using hblank
    obtain ⟨hid, -⟩ := hunique (String.ofList (id.toList ++ '|' :: u)) ⟨[b.renamed v hrenamed]⟩
      ⟨hnamed, _, built_singleton _⟩ (by
        rw [← String.toList_inj, List.nil_append, material_singleton, material_singleton,
          String.toList_ofList]
        exact letters_renamed b v hrenamed _ _ (by rw [huv]; simp))
    have hlength := congrArg (fun text => text.toList.length) hid
    simp only [String.toList_ofList, List.length_append, List.length_cons] at hlength
    omega

/-- An input with one reading shares its text with no other. -/
theorem unique_of_oneReading {id id' : String} {boundary boundary' : SourceBoundary}
    (hone : OneReading id boundary) (h' : Accepted id' boundary')
    (heq : boundary.material id = boundary'.material id') : id = id' ∧ boundary = boundary' := by
  obtain ⟨b, hb, huncut⟩ := hone
  obtain ⟨partitions, hbuild⟩ := h'.built
  obtain ⟨-, hne, -⟩ := SourceBoundary.build_eq_ok hbuild
  obtain ⟨items⟩ := boundary
  obtain rfl : items = [b] := hb
  obtain ⟨items'⟩ := boundary'
  obtain ⟨before, b', rfl⟩ : ∃ before b', items' = before ++ [b'] :=
    ⟨_, _, (List.dropLast_concat_getLast hne).symm⟩
  rw [← String.toList_inj, material_singleton, material_append] at heq
  obtain ⟨hcut, hpartition, hfrom, hto⟩ := letters_injective heq
  have hnamed : blank (String.ofList
      (id'.toList ++ following '|' PartitionBoundary.letters before)) = false := by
    cases before with
    | nil => simpa [following] using h'.named
    | cons first rest => exact not_blank_of_separator (by simp [following])
  rcases cut_cases hcut with ⟨hid, htopic⟩ | ⟨v, hid, -⟩ | ⟨v, -, htopic⟩
  · cases before with
    | nil =>
        have hid' : id = id' := by
          rw [← String.toList_inj, hid]
          simp [following]
        refine ⟨hid', ?_⟩
        rw [partitionBoundary_eq (String.toList_inj.mp htopic) hpartition hfrom hto]
        rfl
    | cons first rest =>
        have hblank := huncut.id id'.toList (first.letters ++
          following '|' PartitionBoundary.letters rest) (by rw [hid]; simp [following])
        rw [String.ofList_toList, h'.named] at hblank
        cases hblank
  · have hblank := huncut.id _ v hid
    rw [hnamed] at hblank
    cases hblank
  · have hblank := huncut.topic v _ htopic
    rw [String.ofList_toList, b'.identity.1] at hblank
    cases hblank

/-! ## Inputs without separators -/

/-- The fields of a line. -/
def fieldsOf (b : PartitionBoundary) : List (List Char) := b.letters.splitOn '|'

theorem fieldsOf_eq {b : PartitionBoundary} (h : '|' ∉ b.topic.toList) :
    fieldsOf b = [b.topic.toList, digits b.partition, digits b.fromOffsetExclusive,
      digits b.toOffsetInclusive] := by
  rw [fieldsOf, letters_eq, List.splitOn_append_cons_self, List.splitOn_append_cons_self,
    List.splitOn_append_cons_self, List.splitOn_eq_singleton h,
    List.splitOn_eq_singleton (separator_not_mem_digits _),
    List.splitOn_eq_singleton (separator_not_mem_digits _),
    List.splitOn_eq_singleton (separator_not_mem_digits _)]
  rfl

/-- Lines without a separator in their topics are read back. -/
theorem lines_eq {items items' : List PartitionBoundary}
    (h : ∀ b ∈ items, '|' ∉ b.topic.toList) (h' : ∀ b ∈ items', '|' ∉ b.topic.toList)
    (heq : items.flatMap fieldsOf = items'.flatMap fieldsOf) : items = items' := by
  induction items generalizing items' with
  | nil =>
      cases items' with
      | nil => rfl
      | cons b' rest' =>
          rw [List.flatMap_cons, fieldsOf_eq (h' b' List.mem_cons_self)] at heq
          cases heq
  | cons b rest ih =>
      cases items' with
      | nil =>
          rw [List.flatMap_cons, fieldsOf_eq (h b List.mem_cons_self)] at heq
          cases heq
      | cons b' rest' =>
          rw [List.flatMap_cons, List.flatMap_cons, fieldsOf_eq (h b List.mem_cons_self),
            fieldsOf_eq (h' b' List.mem_cons_self)] at heq
          obtain ⟨hfirst, hrest⟩ := List.append_inj heq rfl
          injection hfirst with htopic hfirst
          injection hfirst with hpartition hfirst
          injection hfirst with hfrom hfirst
          injection hfirst with hto
          rw [partitionBoundary_eq (String.toList_inj.mp htopic) (digits_injective hpartition)
            (digits_injective hfrom) (digits_injective hto),
            ih (fun b hb => h b (List.mem_cons_of_mem _ hb))
              (fun b hb => h' b (List.mem_cons_of_mem _ hb)) hrest]

theorem fields_material (boundary : SourceBoundary) (id : String) :
    (boundary.material id).toList.splitOn '|' =
      id.toList.splitOn '|' ++ boundary.partitions.flatMap fieldsOf := by
  rw [material_eq, splitOn_following]
  rfl

theorem boundary_eq {id : String} {boundary boundary' : SourceBoundary}
    (h : ∀ b ∈ boundary.partitions, '|' ∉ b.topic.toList)
    (h' : ∀ b ∈ boundary'.partitions, '|' ∉ b.topic.toList)
    (heq : boundary.material id = boundary'.material id) : boundary = boundary' := by
  have hfields := congrArg (fun text => text.toList.splitOn '|') heq
  simp only [fields_material] at hfields
  obtain ⟨items⟩ := boundary
  obtain ⟨items'⟩ := boundary'
  exact congrArg SourceBoundary.mk (lines_eq h h' (List.append_cancel_left hfields))

theorem eq_of_separatorFree {id id' : String} {boundary boundary' : SourceBoundary}
    (h : SeparatorFree id boundary) (h' : SeparatorFree id' boundary')
    (heq : boundary.material id = boundary'.material id') : id = id' ∧ boundary = boundary' := by
  have hfields := congrArg (fun text => text.toList.splitOn '|') heq
  simp only [fields_material, List.splitOn_eq_singleton h.1, List.splitOn_eq_singleton h'.1]
    at hfields
  obtain ⟨hid, -⟩ := List.cons_eq_cons.mp hfields
  obtain rfl := String.toList_inj.mp hid
  exact ⟨rfl, boundary_eq h.2 h'.2 heq⟩

/-! ## The other identities -/

/-- The digest has no separator, so that an id before it is read off. -/
theorem id_of_digest {rt : Runtime} (hhex : ∀ text, '|' ∉ (rt.sha256 text).toList)
    {id id' text text' : String} (h : id ++ "|" ++ rt.sha256 text = id' ++ "|" ++ rt.sha256 text') :
    id = id' ∧ rt.sha256 text = rt.sha256 text' := by
  have hletters := congrArg String.toList h
  simp only [String.toList_append, List.append_assoc] at hletters
  obtain ⟨hid, hdigest⟩ := last_field (hhex text) (hhex text') hletters
  exact ⟨String.toList_inj.mp hid, String.toList_inj.mp hdigest⟩

theorem compileIdentity_eq {id : String} (h : blank id = false) (rt : Runtime)
    (boundary : SourceBoundary) {identity : MaterializationIdentity}
    (hcompile : compileIdentity rt boundary id = .ok identity) :
    identity.sourceFingerprint = rt.sha256 (boundary.material id) ∧
      identity.materializationId = "rtm_" ++
        rt.sha256 ("materialization|" ++ id ++ "|" ++ rt.sha256 (boundary.material id)) ∧
      identity.clickhouseQueryId = "rtq_" ++
        rt.sha256 (id ++ "|" ++ rt.sha256 (boundary.material id)) ∧
      identity.insertDeduplicationToken = identity.materializationId := by
  rw [compileIdentity, SourceBoundary.materializationId, fingerprint_eq h] at hcompile
  cases hcompile
  exact ⟨rfl, rfl, rfl, rfl⟩

/-- Any of the identities has the pipeline version and the fingerprint in it. -/
theorem fingerprint_of_identity {rt : Runtime} (hsha : Function.Injective rt.sha256)
    (hhex : ∀ text, '|' ∉ (rt.sha256 text).toList) {id id' : String}
    {boundary boundary' : SourceBoundary} {identity identity' : MaterializationIdentity}
    (h : blank id = false) (h' : blank id' = false)
    (hcompile : compileIdentity rt boundary id = .ok identity)
    (hcompile' : compileIdentity rt boundary' id' = .ok identity')
    (heq : identity.materializationId = identity'.materializationId ∨
      identity.clickhouseQueryId = identity'.clickhouseQueryId ∨
      identity.insertDeduplicationToken = identity'.insertDeduplicationToken) :
    id = id' ∧ boundary.material id = boundary'.material id' := by
  obtain ⟨-, hmaterialization, hquery, htoken⟩ := compileIdentity_eq h rt boundary hcompile
  obtain ⟨-, hmaterialization', hquery', htoken'⟩ := compileIdentity_eq h' rt boundary' hcompile'
  rw [htoken, htoken', ← or_assoc, or_comm, ← or_assoc, or_self] at heq
  rcases heq with heq | heq
  · rw [hmaterialization, hmaterialization'] at heq
    have htext := hsha (String.append_right_inj _ |>.mp heq)
    rw [String.append_assoc, String.append_assoc, String.append_assoc, String.append_assoc] at htext
    have hrest := String.append_right_inj _ |>.mp htext
    rw [← String.append_assoc, ← String.append_assoc] at hrest
    obtain ⟨hid, hdigest⟩ := id_of_digest hhex hrest
    exact ⟨hid, hsha hdigest⟩
  · rw [hquery, hquery'] at heq
    obtain ⟨hid, hdigest⟩ := id_of_digest hhex (hsha (String.append_right_inj _ |>.mp heq))
    exact ⟨hid, hsha hdigest⟩

/-! ## Whether the identities name one materialization -/

/-- A fingerprint belongs to one input exactly if its text has one reading.  Of inputs whose ids
and topics have no separator every text has one.  The other identities always give the id and
the fingerprint, and with topics that have no separator the boundary. -/
theorem boundary_identity_injective_iff (rt : Runtime) (hsha : Function.Injective rt.sha256)
    (hhex : ∀ text, '|' ∉ (rt.sha256 text).toList) :
    (∀ id boundary, Accepted id boundary →
      ((∀ id' boundary', Accepted id' boundary' →
          boundary.fingerprint rt id = boundary'.fingerprint rt id' →
            id = id' ∧ boundary = boundary') ↔
        OneReading id boundary)) ∧
    ∀ id boundary id' boundary', Accepted id boundary → Accepted id' boundary' →
      (SeparatorFree id boundary → SeparatorFree id' boundary' →
        boundary.fingerprint rt id = boundary'.fingerprint rt id' →
          id = id' ∧ boundary = boundary') ∧
      ∀ identity identity', compileIdentity rt boundary id = .ok identity →
        compileIdentity rt boundary' id' = .ok identity' →
        (identity.materializationId = identity'.materializationId ∨
          identity.clickhouseQueryId = identity'.clickhouseQueryId ∨
          identity.insertDeduplicationToken = identity'.insertDeduplicationToken) →
        id = id' ∧ identity.sourceFingerprint = identity'.sourceFingerprint ∧
          ((∀ b ∈ boundary.partitions, '|' ∉ b.topic.toList) →
            (∀ b ∈ boundary'.partitions, '|' ∉ b.topic.toList) → boundary = boundary') := by
  have hmaterial : ∀ {id id'} {boundary boundary' : SourceBoundary}, blank id = false →
      blank id' = false → (boundary.fingerprint rt id = boundary'.fingerprint rt id' ↔
        boundary.material id = boundary'.material id') := by
    intro id id' boundary boundary' h h'
    rw [fingerprint_eq h, fingerprint_eq h']
    exact ⟨fun heq => hsha (Except.ok.inj heq), fun heq => by rw [heq]⟩
  refine ⟨fun id boundary h => ⟨fun hunique => ?_, fun hone id' boundary' h' heq => ?_⟩,
    fun id boundary id' boundary' h h' => ⟨fun hfree hfree' heq => ?_, ?_⟩⟩
  · exact oneReading_of_unique h fun id' boundary' h' heq =>
      hunique id' boundary' h' ((hmaterial h.named h'.named).mpr heq)
  · exact unique_of_oneReading hone h' ((hmaterial h.named h'.named).mp heq)
  · exact eq_of_separatorFree hfree hfree' ((hmaterial h.named h'.named).mp heq)
  · intro identity identity' hcompile hcompile' heq
    obtain ⟨rfl, htext⟩ := fingerprint_of_identity hsha hhex h.named h'.named hcompile hcompile' heq
    obtain ⟨hfingerprint, -⟩ := compileIdentity_eq h.named rt boundary hcompile
    obtain ⟨hfingerprint', -⟩ := compileIdentity_eq h'.named rt boundary' hcompile'
    refine ⟨rfl, ?_, fun hfree hfree' => boundary_eq hfree hfree' htext⟩
    rw [hfingerprint, hfingerprint', htext]

/-! ## A digest without collisions, and two inputs that share theirs -/

/-- The bits of a letter. -/
def bitsOf (c : Char) : List Char :=
  (List.range 32).map fun i => if c.toNat.testBit i then '1' else '0'

theorem bitsOf_injective : Function.Injective bitsOf := by
  intro c d h
  have hbits : ∀ i, c.toNat.testBit i = d.toNat.testBit i := by
    intro i
    by_cases hi : i < 32
    · have hbit := List.map_inj_left.mp h i (List.mem_range.mpr hi)
      cases hc : c.toNat.testBit i <;> cases hd : d.toNat.testBit i <;> simp [hc, hd] at hbit ⊢
    · have hlarge : 2 ^ 32 ≤ 2 ^ i := Nat.pow_le_pow_right (by decide) (not_lt.mp hi)
      have hc : c.toNat < 2 ^ 32 := c.val.toNat_lt
      have hd : d.toNat < 2 ^ 32 := d.val.toNat_lt
      rw [Nat.testBit_lt_two_pow (lt_of_lt_of_le hc hlarge),
        Nat.testBit_lt_two_pow (lt_of_lt_of_le hd hlarge)]
  exact Char.toNat_inj.mp (Nat.eq_of_testBit_eq hbits)

def bitRuntime : Runtime where
  sha256 text := String.ofList (text.toList.flatMap bitsOf)
  lower := id
  casefold := id

theorem bitRuntime_injective : Function.Injective bitRuntime.sha256 := by
  intro a b h
  have hlength : ∀ c, (bitsOf c).length = 31 + 1 := fun c => by simp [bitsOf]
  exact String.toList_inj.mp (flatMap_injective hlength bitsOf_injective (String.ofList_inj.mp h))

theorem bitRuntime_digits (text : String) : '|' ∉ (bitRuntime.sha256 text).toList := by
  intro hmem
  rw [bitRuntime, String.toList_ofList] at hmem
  obtain ⟨c, -, hc⟩ := List.mem_flatMap.mp hmem
  obtain ⟨i, -, hi⟩ := List.mem_map.mp hc
  split at hi <;> cases hi

def shownPartition (topic : String) (partition last : Int) (h : blank topic = false)
    (hp : 0 ≤ partition) (hlast : -1 < last) : PartitionBoundary :=
  ⟨topic, partition, -1, last, ⟨h, hp⟩, le_refl _, hlast⟩

/-- Two topics. -/
def twoTopics : SourceBoundary :=
  ⟨[shownPartition "x" 0 5 (by decide) (by decide) (by decide),
    shownPartition "y" 0 7 (by decide) (by decide) (by decide)]⟩

/-- One topic, named like the text of two. -/
def oneTopic : SourceBoundary :=
  ⟨[shownPartition "x|0|-1|5|y" 0 7 (by decide) (by decide) (by decide)]⟩

theorem fingerprint_shared :
    Accepted "pipeline-v1" twoTopics ∧ Accepted "pipeline-v1" oneTopic ∧ twoTopics ≠ oneTopic ∧
      twoTopics.fingerprint bitRuntime "pipeline-v1" =
        oneTopic.fingerprint bitRuntime "pipeline-v1" ∧
      compileIdentity bitRuntime twoTopics "pipeline-v1" =
        compileIdentity bitRuntime oneTopic "pipeline-v1" := by
  have hmaterial : twoTopics.material "pipeline-v1" = oneTopic.material "pipeline-v1" := by
    decide +kernel
  have hfingerprint : twoTopics.fingerprint bitRuntime "pipeline-v1" =
      oneTopic.fingerprint bitRuntime "pipeline-v1" := by
    rw [SourceBoundary.fingerprint, SourceBoundary.fingerprint, hmaterial]
  refine ⟨⟨by decide, twoTopics.partitions, by decide +kernel⟩, ⟨by decide, _, built_singleton _⟩,
    by decide, hfingerprint, ?_⟩
  rw [compileIdentity, compileIdentity, SourceBoundary.materializationId,
    SourceBoundary.materializationId, hfingerprint]

/-- One topic with a safe name. -/
def ordersOnly : SourceBoundary :=
  ⟨[shownPartition "orders" 0 5 (by decide) (by decide) (by decide)]⟩

theorem boundary_identity_ordersOnly :
    Accepted "pipeline-v1" ordersOnly ∧ ∀ id' boundary', Accepted id' boundary' →
      ordersOnly.fingerprint bitRuntime "pipeline-v1" = boundary'.fingerprint bitRuntime id' →
        "pipeline-v1" = id' ∧ ordersOnly = boundary' := by
  have haccepted : Accepted "pipeline-v1" ordersOnly := ⟨by decide, _, built_singleton _⟩
  refine ⟨haccepted, ((boundary_identity_injective_iff bitRuntime bitRuntime_injective
    bitRuntime_digits).1 _ _ haccepted).mpr ⟨_, rfl, ?_, ?_⟩⟩
  · intro u v h
    have hmem : '|' ∈ "pipeline-v1".toList := by rw [h]; simp
    exact absurd hmem (by decide)
  · intro u v h
    have htopic : "orders".toList = u ++ '|' :: v := h
    have hmem : '|' ∈ "orders".toList := by rw [htopic]; simp
    exact absurd hmem (by decide)

end AskLake.Realtime

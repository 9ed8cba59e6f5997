import Durable.Handshake.Announced
import Durable.Text.Joined

/-! The announced workflows are the same on every pod just when no names overlap and no ties are
met in different orders. -/

namespace Durable.Announced

open Grouping
open CodeUnits (sortUnits byUnits eq_of_byUnits sortUnits_firsts_congr)

section Sets

variable {Item : Type} [DecidableEq Item] {rendering : Item → String}

omit [DecidableEq Item] in
theorem transCmp_on {Image : Type} {compare : Image → Image → Ordering}
    (trans : Std.TransCmp compare) (image : Item → Image) :
    Std.TransCmp fun one other => compare (image one) (image other) where
  eq_swap {one other} := by
    have swapped : compare (image one) (image other) =
      (compare (image other) (image one)).swap := Std.OrientedCmp.eq_swap
    exact swapped
  isLE_trans {one other third} up up' := by
    have whole : (compare (image one) (image third)).isLE = true := trans.isLE_trans up up'
    exact whole

theorem firsts_map {Image : Type} [DecidableEq Image] {image : Item → Image}
    (injective : Function.Injective image) (items : List Item) :
    firsts (items.map image) = (firsts items).map image := by
  induction items using List.reverseRecOn with
  | nil => rfl
  | append_singleton items last ih =>
    rw [List.map_append, List.map_singleton, firsts_concat, firsts_concat, ih]
    by_cases met : last ∈ firsts items
    · have met' : image last ∈ (firsts items).map image := List.mem_map_of_mem met
      rw [if_pos met, if_pos met']
    · have fresh : image last ∉ (firsts items).map image := by
        intro listed
        obtain ⟨other, listed, same⟩ := List.mem_map.mp listed
        exact met (injective same ▸ listed)
      rw [if_neg met, if_neg fresh, List.map_append, List.map_singleton]

theorem byRendering_eq (injective : Function.Injective rendering) (items : List Item) :
    byRendering rendering items = (firsts items).map fun item => (rendering item, item) := by
  have keys : (byRendering rendering items).map Prod.fst = (firsts items).map rendering := by
    rw [byRendering, keys_collect, ← firsts_map injective]
    congr 1
    exact congrFun List.filterMap_eq_map items
  have rendered : ∀ entry ∈ byRendering rendering items, entry.1 = rendering entry.2 := by
    apply collect_invariant (fun key item => key = rendering item)
    · intro item key found
      exact (Option.some.inj found).symm
    · intro item key entry found _
      exact (Option.some.inj found).symm
  have values : (byRendering rendering items).map Prod.snd = firsts items := by
    apply injective.list_map
    rw [← keys, List.map_map]
    exact List.map_congr_left fun entry listed => (rendered entry listed).symm
  have whole : byRendering rendering items =
      ((byRendering rendering items).map Prod.snd).map fun item => (rendering item, item) := by
    rw [List.map_map]
    refine (List.map_id _).symm.trans (List.map_congr_left fun entry listed => ?_)
    exact Prod.ext (rendered entry listed) rfl
  rw [whole, values]

omit [DecidableEq Item] in
theorem lookup_rendering (injective : Function.Injective rendering) {items : List Item}
    {item : Item} (listed : item ∈ items) :
    (items.map fun each => (rendering each, each)).lookup (rendering item) = some item := by
  induction items with
  | nil => cases listed
  | cons first rest ih =>
    rw [List.map_cons, List.lookup_cons]
    cases same : rendering item == rendering first with
    | true => rw [injective (eq_of_beq same)]
    | false =>
      rcases List.mem_cons.mp listed with here | later
      · rw [here, beq_self_eq_true] at same
        cases same
      · exact ih later

theorem sortedByRendering_eq (injective : Function.Injective rendering) (items : List Item) :
    sortedByRendering rendering items =
      sortBy (fun one other => byUnits (rendering one) (rendering other)) (firsts items) := by
  have keys : sortUnits ((firsts items).map rendering) =
      (sortBy (fun one other => byUnits (rendering one) (rendering other))
        (firsts items)).map rendering := by
    unfold sortUnits sortBy
    exact (List.map_mergeSort (f := rendering) fun _ _ _ _ => rfl).symm
  have first : ((firsts items).map fun item => (rendering item, item)).map Prod.fst =
      (firsts items).map rendering := by
    rw [List.map_map]
    rfl
  simp only [sortedByRendering, byRendering_eq injective, first, keys, List.filterMap_map]
  have found : ∀ item ∈ sortBy (fun one other => byUnits (rendering one) (rendering other))
      (firsts items), ((firsts items).map fun item => (rendering item, item)).lookup
        (rendering item) = some item := by
    intro item listed
    exact lookup_rendering injective (mem_sortBy.mp listed)
  exact (List.filterMap_congr found).trans List.filterMap_some

theorem sortedByRendering_congr (injective : Function.Injective rendering)
    {items others : List Item} (members : ∀ item, item ∈ items ↔ item ∈ others) :
    sortedByRendering rendering items = sortedByRendering rendering others := by
  rw [sortedByRendering_eq injective, sortedByRendering_eq injective]
  have trans := transCmp_on CodeUnits.instTransCmpStringByUnits rendering
  apply sortBy_congr (nodup_firsts _) (nodup_firsts _)
  · simpa using members
  · intro first second tie pair
    have apart := pair.nodup (nodup_firsts _)
    simp [injective (eq_of_byUnits tie)] at apart

end Sets

section Renderings

theorem announcedRouteJson_injective : Function.Injective announcedRouteJson := by
  intro one other same
  obtain ⟨code, workflow⟩ := one
  obtain ⟨code', workflow'⟩ := other
  cases code <;> cases code' <;> simp [announcedRouteJson] at same ⊢ <;> exact same

theorem routesJson_injective : Function.Injective routesJson := by
  intro one other same
  have json := JsonValue.arr.inj (JsonValue.stringify_inj _ same)
  exact announcedRouteJson_injective.list_map json

theorem requiresJson_injective : Function.Injective requiresJson := by
  intro one other same
  have json := JsonValue.arr.inj (JsonValue.stringify_inj _ same)
  have texts : Function.Injective (JsonValue.str : String → JsonValue Empty) :=
    fun _ _ same => JsonValue.str.inj same
  exact texts.list_map json

theorem runtimeText_injective : Function.Injective Runtime.text := by
  intro one other same
  cases one <;> cases other
  · rfl
  · simp [Runtime.text] at same
  · simp [Runtime.text] at same
  · rfl

end Renderings

section Keys

/-- One announcement's name and version read like another's in the key: a name of its own that is
the other's name and version, or a longer name before the same end. -/
def Overlaps (a b : WorkflowAnnouncement) : Prop :=
  (∃ version, a.version = none ∧ b.version = some version ∧
    a.name = b.name ++ "@" ++ version) ∨
  ∃ version rest, a.version = some version ∧ b.version = some (rest ++ "@" ++ version) ∧
    a.name = b.name ++ "@" ++ rest

theorem ne_joined (name rest : String) : name ≠ name ++ "@" ++ rest := by
  intro same
  have lengths := congrArg String.length same
  have mark : "@".length = 1 := by decide
  simp only [String.length_append] at lengths
  omega

theorem announcementKey_eq_iff (a b : WorkflowAnnouncement) :
    announcementKey a = announcementKey b ↔
      (a.name = b.name ∧ a.version = b.version) ∨ Overlaps a b ∨ Overlaps b a := by
  unfold announcementKey Overlaps
  cases one : a.version with
  | none =>
    cases other : b.version with
    | none => simp
    | some version => simp
  | some version =>
    cases other : b.version with
    | none => simp [eq_comm]
    | some version' =>
      have marked : "@".toList = ['@'] := by decide
      simp only [Joined.text_eq_iff marked, reduceCtorEq, false_and, exists_false, false_or, Option.some.injEq]
      constructor
      · rintro (⟨names, versions⟩ | ⟨rest, names, versions⟩ | ⟨rest, names, versions⟩)
        · exact .inl ⟨names, versions⟩
        · exact .inr (.inl ⟨version, rest, rfl, versions, names⟩)
        · exact .inr (.inr ⟨version', rest, rfl, versions, names⟩)
      · rintro (⟨names, versions⟩ | ⟨_, rest, rfl, versions, names⟩ |
          ⟨_, rest, rfl, versions, names⟩)
        · exact .inl ⟨names, versions⟩
        · exact .inr (.inl ⟨rest, names, versions⟩)
        · exact .inr (.inr ⟨rest, names, versions⟩)

theorem apart_of_overlaps {a b : WorkflowAnnouncement} (overlaps : Overlaps a b) :
    a.name ≠ b.name := by
  intro same
  rcases overlaps with ⟨version, -, -, names⟩ | ⟨version, rest, -, -, names⟩
  · exact ne_joined b.name version (same.symm.trans names)
  · exact ne_joined b.name rest (same.symm.trans names)

end Keys

def keysOf (descriptor : RawWorkerDescriptor) : List String :=
  (announcementsOf descriptor).map announcementKey

def demandsOf (key : String) (descriptor : RawWorkerDescriptor) : List (List String) :=
  ((announcementsOf descriptor).filter fun a => decide (announcementKey a = key)).filterMap
    fun a => a.requires.map canonicalRequires

/-- No two sources mention first two different items that tie. -/
def NoTies {Source Item : Type} [DecidableEq Item] (compare : Item → Item → Ordering)
    (mentions : Source → List Item) (sources : List Source) : Prop :=
  ∀ one ∈ sources, ∀ other ∈ sources, ∀ first second, compare first second = .eq →
    (mentions one).find? (isEither first second) = some first →
    (mentions other).find? (isEither first second) = some second → first = second

/-- Announcements are folded only when they are of one name and one version, or none. -/
def FoldsAlike (descriptors : List RawWorkerDescriptor) : Prop :=
  ∀ bucket ∈ byKey descriptors, ∀ a ∈ bucket.2, ∀ b ∈ bucket.2,
    a.name = b.name ∧ a.version = b.version

/-- The registry is the same for the same descriptors in any order, repeated or not. -/
def Reproducible (collation : Collation) (descriptors : List RawWorkerDescriptor) : Prop :=
  ∀ others : List RawWorkerDescriptor,
    (∀ descriptor, descriptor ∈ others ↔ descriptor ∈ descriptors) →
      aggregateAnnouncements collation others = aggregateAnnouncements collation descriptors

/-- What the registry needs of the descriptors. -/
structure Determined (collation : Collation) (descriptors : List RawWorkerDescriptor) : Prop where
  apart : ∀ a ∈ descriptors.flatMap announcementsOf, ∀ b ∈ descriptors.flatMap announcementsOf,
    ¬Overlaps a b
  keys : NoTies collation.localeCompare keysOf descriptors
  requires : ∀ key, NoTies (fun x y => collation.localeCompare (shown x) (shown y))
    (demandsOf key) descriptors

section Registry

variable {collation : Collation} {descriptors others : List RawWorkerDescriptor} {key : String}

/-- The announcements of a key. -/
def bucketOf (descriptors : List RawWorkerDescriptor) (key : String) : List WorkflowAnnouncement :=
  (descriptors.flatMap announcementsOf).filter fun a => decide (announcementKey a = key)

theorem byKey_eq (descriptors : List RawWorkerDescriptor) :
    byKey descriptors = (mentioned keysOf descriptors).map fun key =>
      (key, bucketOf descriptors key) := by
  have keys : (descriptors.flatMap announcementsOf).filterMap (fun a => some (announcementKey a)) =
      descriptors.flatMap keysOf := by
    have mapped := congrFun (List.filterMap_eq_map (f := announcementKey))
      (descriptors.flatMap announcementsOf)
    refine mapped.trans ?_
    rw [List.map_flatMap]
    rfl
  rw [byKey, collect_lists, keys]
  simp only [Option.some.injEq]
  rfl

theorem mem_bucketOf (members : ∀ descriptor, descriptor ∈ others ↔ descriptor ∈ descriptors)
    (key : String) (a : WorkflowAnnouncement) :
    a ∈ bucketOf others key ↔ a ∈ bucketOf descriptors key := by
  simp only [bucketOf, List.mem_filter, List.mem_flatMap, members]

theorem bucketOf_ne_nil (met : key ∈ mentioned keysOf descriptors) :
    bucketOf descriptors key ≠ [] := by
  obtain ⟨descriptor, listed, mention⟩ := mem_mentioned.mp met
  obtain ⟨a, announced, own⟩ := List.mem_map.mp mention
  have member : a ∈ bucketOf descriptors key :=
    List.mem_filter.mpr ⟨List.mem_flatMap.mpr ⟨descriptor, listed, announced⟩, by simp [own]⟩
  exact List.ne_nil_of_mem member

theorem entryOf_isSome (met : key ∈ mentioned keysOf descriptors) :
    ∃ entry, entryOf collation key (bucketOf descriptors key) = some entry ∧ entry.key = key := by
  obtain ⟨first, rest, bucket⟩ := List.exists_cons_of_ne_nil (bucketOf_ne_nil met)
  unfold entryOf
  rw [bucket]
  exact ⟨_, rfl, rfl⟩

/-- The entry of a mentioned key. -/
def entryAt (collation : Collation) (descriptors : List RawWorkerDescriptor) (key : String) :
    AnnouncedWorkflow := (entryOf collation key (bucketOf descriptors key)).getD default

theorem entryAt_of_mentioned (met : key ∈ mentioned keysOf descriptors) :
    entryOf collation key (bucketOf descriptors key) = some (entryAt collation descriptors key) ∧
      (entryAt collation descriptors key).key = key := by
  obtain ⟨entry, found, own⟩ :
      ∃ entry, entryOf collation key (bucketOf descriptors key) = some entry ∧ entry.key = key :=
    entryOf_isSome met
  rw [entryAt, found]
  exact ⟨rfl, own⟩

theorem aggregate_eq (collation : Collation) (descriptors : List RawWorkerDescriptor) :
    aggregateAnnouncements collation descriptors =
      (sortBy collation.localeCompare (mentioned keysOf descriptors)).map
        (entryAt collation descriptors) := by
  have entries : (byKey descriptors).filterMap (fun entry => entryOf collation entry.1 entry.2) =
      (mentioned keysOf descriptors).map (entryAt collation descriptors) := by
    rw [byKey_eq, List.filterMap_map, ← List.filterMap_eq_map]
    exact List.filterMap_congr fun key met => (entryAt_of_mentioned met).1
  unfold aggregateAnnouncements sortBy
  rw [entries]
  refine (List.map_mergeSort fun one met other met' => ?_).symm
  dsimp only
  rw [(entryAt_of_mentioned met).2, (entryAt_of_mentioned met').2]

theorem keys_aggregate (collation : Collation) (descriptors : List RawWorkerDescriptor) :
    (aggregateAnnouncements collation descriptors).map (·.key) =
      sortBy collation.localeCompare (mentioned keysOf descriptors) := by
  rw [aggregate_eq, List.map_map]
  refine (List.map_congr_left fun key listed => ?_).trans (List.map_id _)
  exact (entryAt_of_mentioned (mem_sortBy.mp listed)).2

theorem requiresOf_eq (collation : Collation) (descriptors : List RawWorkerDescriptor)
    (key : String) : requiresOf collation (bucketOf descriptors key) =
      sortBy (fun x y => collation.localeCompare (shown x) (shown y))
        (mentioned (demandsOf key) descriptors) := by
  have demands : (bucketOf descriptors key).filterMap (fun a => a.requires.map canonicalRequires) =
      descriptors.flatMap (demandsOf key) := by
    rw [bucketOf, List.filter_flatMap, List.filterMap_flatMap]
    rfl
  rw [requiresOf, demands, byRendering_eq requiresJson_injective]
  simp only [List.map_map]
  congr 1
  exact List.map_id _

theorem requires_entryAt (met : key ∈ mentioned keysOf descriptors) :
    (entryAt collation descriptors key).requires =
      requiresOf collation (bucketOf descriptors key) := by
  obtain ⟨first, rest, bucket⟩ := List.exists_cons_of_ne_nil (bucketOf_ne_nil met)
  rw [entryAt, entryOf, bucket]
  rfl

theorem mentioned_demands_nil (unmet : key ∉ mentioned keysOf descriptors) :
    mentioned (demandsOf key) descriptors = [] := by
  apply List.eq_nil_iff_forall_not_mem.mpr
  intro demand met
  obtain ⟨descriptor, listed, mention⟩ := mem_mentioned.mp met
  obtain ⟨a, announced, -⟩ := List.mem_filterMap.mp mention
  obtain ⟨announced, own⟩ := List.mem_filter.mp announced
  exact unmet (mem_mentioned.mpr ⟨descriptor, listed,
    List.mem_map.mpr ⟨a, announced, of_decide_eq_true own⟩⟩)

section SameAnnouncements

variable {bucket bucket' : List WorkflowAnnouncement}

theorem stated_congr (same : ∀ a, a ∈ bucket ↔ a ∈ bucket')
    (value : WorkflowAnnouncement → Option String) :
    stated (bucket.map value) = stated (bucket'.map value) := by
  apply sortUnits_firsts_congr
  intro text
  simp only [List.mem_filterMap, List.mem_map, same]

theorem mem_routesOf (same : ∀ a, a ∈ bucket ↔ a ∈ bucket') (routes : List Route) :
    routes ∈ routesOf bucket ↔ routes ∈ routesOf bucket' := by
  simp only [routesOf, List.mem_filterMap, same]

theorem renderings_congr (same : ∀ a, a ∈ bucket ↔ a ∈ bucket') :
    sortUnits ((byRendering routesJson (routesOf bucket)).map Prod.fst) =
      sortUnits ((byRendering routesJson (routesOf bucket')).map Prod.fst) := by
  have keys : ∀ routes : List (List Route), (byRendering routesJson routes).map Prod.fst =
      firsts (routes.map routesJson) := by
    intro routes
    rw [byRendering_eq routesJson_injective, List.map_map, firsts_map routesJson_injective]
    rfl
  rw [keys, keys]
  apply sortUnits_firsts_congr
  intro text
  simp only [List.mem_map, mem_routesOf same]

end SameAnnouncements

theorem alike_of_apart (apart : ∀ a ∈ descriptors.flatMap announcementsOf,
      ∀ b ∈ descriptors.flatMap announcementsOf, ¬Overlaps a b) {a b : WorkflowAnnouncement}
    (one : a ∈ bucketOf descriptors key) (other : b ∈ bucketOf descriptors key) :
    a.name = b.name ∧ a.version = b.version := by
  obtain ⟨listed, own⟩ := List.mem_filter.mp one
  obtain ⟨listed', own'⟩ := List.mem_filter.mp other
  have keys : announcementKey a = announcementKey b :=
    (of_decide_eq_true own).trans (of_decide_eq_true own').symm
  rcases (announcementKey_eq_iff a b).mp keys with alike | overlaps | overlaps
  · exact alike
  · exact absurd overlaps (apart a listed b listed')
  · exact absurd overlaps (apart b listed' a listed)

/-- A key's entry is the same for the same descriptors, where no names overlap and its demands are
shown in one order. -/
theorem entryOf_congr (members : ∀ descriptor, descriptor ∈ others ↔ descriptor ∈ descriptors)
    (apart : ∀ a ∈ descriptors.flatMap announcementsOf,
      ∀ b ∈ descriptors.flatMap announcementsOf, ¬Overlaps a b) (key : String)
    (requires : requiresOf collation (bucketOf others key) =
      requiresOf collation (bucketOf descriptors key)) :
    entryOf collation key (bucketOf others key) =
      entryOf collation key (bucketOf descriptors key) := by
  have same := mem_bucketOf members key
  have alike : ∀ a ∈ bucketOf descriptors key, ∀ b ∈ bucketOf descriptors key,
      a.name = b.name ∧ a.version = b.version := fun a one b other =>
    alike_of_apart apart one other
  have runtimes : sortedByRendering Runtime.text ((bucketOf others key).map (·.runtime)) =
      sortedByRendering Runtime.text ((bucketOf descriptors key).map (·.runtime)) := by
    apply sortedByRendering_congr runtimeText_injective
    simp only [List.mem_map, same, implies_true]
  have instances : sortUnits (firsts ((bucketOf others key).map (·.instanceId))) =
      sortUnits (firsts ((bucketOf descriptors key).map (·.instanceId))) := by
    apply sortUnits_firsts_congr
    simp only [List.mem_map, same, implies_true]
  have routes : sortedByRendering routesJson (routesOf (bucketOf others key)) =
      sortedByRendering routesJson (routesOf (bucketOf descriptors key)) :=
    sortedByRendering_congr routesJson_injective (mem_routesOf same)
  have groups := stated_congr same (·.group)
  have origins := stated_congr same (·.origin)
  simp only [entryOf, requires, runtimes, instances, routes, renderings_congr same, groups, origins]
  generalize bucketOf others key = bucket at same ⊢
  generalize bucketOf descriptors key = bucket' at same alike ⊢
  cases bucket with
  | nil =>
    have empty : bucket' = [] :=
      List.eq_nil_iff_forall_not_mem.mpr fun a listed => absurd ((same a).mpr listed) (by simp)
    rw [empty]
  | cons first rest =>
    cases bucket' with
    | nil => exact absurd ((same first).mp List.mem_cons_self) (by simp)
    | cons first' rest' =>
      -- The first announcement may be another, of the same name and version.
      obtain ⟨names, versions⟩ :=
        alike first ((same first).mp List.mem_cons_self) first' List.mem_cons_self
      simp only [List.head?_cons, Option.map_some, names, versions]

theorem foldsAlike_iff : FoldsAlike descriptors ↔
    ∀ a ∈ descriptors.flatMap announcementsOf, ∀ b ∈ descriptors.flatMap announcementsOf,
      ¬Overlaps a b := by
  unfold FoldsAlike
  rw [byKey_eq]
  constructor
  · intro alike a listed b listed' overlaps
    have keys : announcementKey b = announcementKey a :=
      ((announcementKey_eq_iff a b).mpr (.inr (.inl overlaps))).symm
    have met : announcementKey a ∈ mentioned keysOf descriptors := by
      obtain ⟨descriptor, member, announced⟩ := List.mem_flatMap.mp listed
      exact mem_mentioned.mpr ⟨descriptor, member, List.mem_map_of_mem announced⟩
    have one : a ∈ bucketOf descriptors (announcementKey a) :=
      List.mem_filter.mpr ⟨listed, by simp⟩
    have other : b ∈ bucketOf descriptors (announcementKey a) :=
      List.mem_filter.mpr ⟨listed', by simp [keys]⟩
    exact apart_of_overlaps overlaps
      (alike _ (List.mem_map.mpr ⟨_, met, rfl⟩) a one b other).1
  · intro apart bucket listed a one b other
    obtain ⟨key, -, rfl⟩ := List.mem_map.mp listed
    exact alike_of_apart apart one other

theorem requires_of_reproducible (reproducible : Reproducible collation descriptors) (key : String)
    (members : ∀ descriptor, descriptor ∈ others ↔ descriptor ∈ descriptors) :
    requiresOf collation (bucketOf others key) =
      requiresOf collation (bucketOf descriptors key) := by
  have met_iff : key ∈ mentioned keysOf others ↔ key ∈ mentioned keysOf descriptors := by
    simp only [mem_mentioned, members]
  by_cases met : key ∈ mentioned keysOf descriptors
  · have same := reproducible others members
    rw [aggregate_eq, aggregate_eq] at same
    have listed : entryAt collation others key ∈
        (sortBy collation.localeCompare (mentioned keysOf others)).map
          (entryAt collation others) :=
      List.mem_map_of_mem (mem_sortBy.mpr (met_iff.mpr met))
    rw [same] at listed
    obtain ⟨other, listed', equal⟩ := List.mem_map.mp listed
    have own : (entryAt collation descriptors other).key = other :=
      (entryAt_of_mentioned (mem_sortBy.mp listed')).2
    have own' : (entryAt collation others key).key = key :=
      (entryAt_of_mentioned (met_iff.mpr met)).2
    rw [equal, own'] at own
    subst own
    rw [← requires_entryAt (met_iff.mpr met), ← requires_entryAt met, equal]
  · rw [requiresOf_eq, requiresOf_eq, mentioned_demands_nil met,
      mentioned_demands_nil fun met' => met (met_iff.mp met')]

end Registry

/-- The registry is the same for the same descriptors in any order, repeated or not, and folds only
announcements of one name and version, just when no announced name and version read like others in
the key, no two descriptors mention first two different keys that tie, and no two descriptors
mention first, for one key, two different demands that are shown alike. -/
theorem aggregateAnnouncements_reproducible_iff (collation : Collation)
    (descriptors : List RawWorkerDescriptor) :
    Reproducible collation descriptors ∧ FoldsAlike descriptors ↔
      Determined collation descriptors := by
  have lawful := collation.lawful
  have lawful' := transCmp_on lawful shown
  rw [foldsAlike_iff]
  constructor
  · rintro ⟨reproducible, apart⟩
    refine ⟨apart, ?_, fun key => ?_⟩
    · refine (sortBy_mentioned_iff collation.localeCompare descriptors).mp fun others members => ?_
      rw [← keys_aggregate, ← keys_aggregate, reproducible others members]
    · refine (sortBy_mentioned_iff _ descriptors).mp fun others members => ?_
      rw [← requiresOf_eq, ← requiresOf_eq, requires_of_reproducible reproducible key members]
  · intro determined
    refine ⟨fun others members => ?_, determined.apart⟩
    have keys := (sortBy_mentioned_iff collation.localeCompare descriptors).mpr determined.keys
      others members
    have entries : ∀ key, entryAt collation others key = entryAt collation descriptors key := by
      intro key
      have requires := (sortBy_mentioned_iff _ descriptors).mpr (determined.requires key) others
        members
      rw [← requiresOf_eq, ← requiresOf_eq] at requires
      rw [entryAt, entryAt, entryOf_congr members determined.apart key requires]
    rw [aggregate_eq, aggregate_eq, keys, funext entries]

def unitCollation : Collation where
  localeCompare := byUnits
  lawful := inferInstance

/-- The descriptors of two workers, the second with a name and version that read like the name of
the first. -/
def overlapping : List RawWorkerDescriptor :=
  [{ instanceId := "one", runtime := .node, workflows := some ["ship@2"] },
    { instanceId := "two", runtime := .python,
      registrations := some [{ name := "ship", version := some "2" }] }]

/-- A name is announced that is another's name and version. -/
theorem overlapping_names_folded :
    ¬∀ (collation : Collation) (descriptors : List RawWorkerDescriptor),
      Reproducible collation descriptors ∧ FoldsAlike descriptors := by
  intro claimed
  have apart := foldsAlike_iff.mp (claimed unitCollation overlapping).2
  exact apart { name := "ship@2", instanceId := "one", runtime := .node } (by decide +kernel)
    { name := "ship", version := some "2", instanceId := "two", runtime := .python }
    (by decide +kernel) (.inl ⟨"2", rfl, rfl, by decide⟩)

end Durable.Announced

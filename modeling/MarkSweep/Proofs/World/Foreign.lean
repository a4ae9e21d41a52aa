import MarkSweep.Proofs.Collector.Foreign
import MarkSweep.Proofs.Collector.Interning
import MarkSweep.Proofs.World.Observation
import MarkSweep.Proofs.World.Pacing

namespace MarkSweep

namespace World

def Op.issued? (w : World) (id : CollectorId) (o : Op) : Option Ref :=
  match o.allocation? w with
  | some (other, header, object) =>
    if other = id ∧ id < w.collectors.size then some (w.allocate id header object).1 else none
  | none => none

def Act.issued? (w : World) (id : CollectorId) (a : Act) : Option Ref :=
  a.main?.bind (·.issued? w id)

def issued (w : World) (id : CollectorId) : List Act → List Ref
  | [] => []
  | a :: acts => (a.issued? w id).toList ++ (a.apply w).issued id acts

structure Disowns (w : World) (id : CollectorId) (r : Ref) : Prop where
  collector : (w.collector id).Disowns r
  weak : (WeakRef.create w id r).1.get? (WeakRef.create w id r).2 = none

variable {w : World} {id : CollectorId} {r : Ref} {rs : List Ref}

theorem collector_setCollector_of_not {other : CollectorId}
    (elsewhere : ¬(other = id ∧ id < w.collectors.size)) (c : Collector) :
    (w.setCollector other c).collector id = w.collector id := by
  by_cases here : other = id
  · subst here
    have outside : w.collectors.size ≤ other := Nat.not_lt.mp fun inside => elsewhere ⟨rfl, inside⟩
    rw [setCollector_of_size_le outside]
  · exact collector_setCollector_of_ne w here c

theorem heap_intern_of_absent {other : CollectorId} {text : String}
    (absent : (w.collector other).interned[text]? = none) :
    ((w.intern other text).2.collector id).heap =
      ((w.allocate other (.ofKind .string) (.chunk text.toUTF8)).2.collector id).heap := by
  by_cases here : other = id ∧ id < w.collectors.size
  · obtain ⟨rfl, inside⟩ := here
    rw [collector_intern inside, collector_allocate inside]
    exact Collector.heap_intern_of_absent absent w.process
  · have interned : (w.intern other text).2.collector id = w.collector id :=
      collector_setCollector_of_not here _
    have allocated : (w.allocate other (.ofKind .string) (.chunk text.toUTF8)).2.collector id =
        w.collector id := collector_setCollector_of_not here _
    rw [interned, allocated]

theorem numbers_allocate (hc : (w.collector id).Orderly) (hn : (w.collector id).heap.Numbers rs)
    (other : CollectorId) (header : Header) (object : Object) :
    ((w.allocate other header object).2.collector id).heap.Numbers
      (rs ++ ((Op.allocate other header object).issued? w id).toList) := by
  by_cases here : other = id ∧ id < w.collectors.size
  · obtain ⟨rfl, inside⟩ := here
    simp only [Op.issued?, Op.allocation?, inside, and_self, if_true, Option.toList_some]
    rw [collector_allocate inside]
    exact Collector.numbers_allocate hc.heap hn w.process header object
  · have same : (w.allocate other header object).2.collector id = w.collector id :=
      collector_setCollector_of_not here _
    simpa [Op.issued?, Op.allocation?, here, same] using hn

theorem wanes_setCollector {other : CollectorId} {c : Collector}
    (step : other = id → (w.collector id).heap.Wanes c.heap) :
    (w.collector id).heap.Wanes ((w.setCollector other c).collector id).heap :=
  collector_setCollector_ind (P := fun c => (w.collector id).heap.Wanes c.heap) (.refl _) step

theorem wanes_apply (hc : (w.collector id).Orderly) {o : Op} (idle : o.allocation? w = none) :
    (w.collector id).heap.Wanes ((o.apply w).collector id).heap := by
  cases o with
  | create config =>
    have heap := collector_addCollector_congr Collector.heap (fun _ _ => rfl) w config id
    rw [Op.apply, heap]
    exact .refl _
  | allocate => cases idle
  | intern other text =>
    apply wanes_setCollector
    rintro rfl
    rw [Op.allocation?, string?] at idle
    split at idle
    case h_1 => cases idle
    case h_2 present =>
      show (w.collector other).heap.Wanes ((w.collector other).intern w.process text).2.1.heap
      rw [Collector.intern_of_interned present]
      exact .refl _
  | tryTrigger other =>
    apply wanes_setCollector
    rintro rfl
    exact Collector.wanes_tryTrigger hc.heap w.process
  | edit other e =>
    apply wanes_setCollector
    rintro rfl
    exact Collector.wanes_edit _ e
  | addMarker | setMarker | entrust | sleep | setDefaults | takeLog => exact .refl _
  | _ =>
    apply wanes_setCollector
    rintro rfl
    exact .refl _

theorem numbers_apply (hc : (w.collector id).Orderly) (hn : (w.collector id).heap.Numbers rs)
    (o : Op) : ((o.apply w).collector id).heap.Numbers (rs ++ (o.issued? w id).toList) := by
  cases placing : o.allocation? w with
  | none =>
    rw [Op.issued?, placing, Option.toList_none, List.append_nil]
    exact hn.wanes (wanes_apply hc placing)
  | some place =>
    cases o with
    | allocate other header object => exact numbers_allocate hc hn other header object
    | intern other text =>
      rw [Op.allocation?, string?] at placing
      split at placing
      case h_1 absent =>
        have same : (Op.intern other text).issued? w id =
            (Op.allocate other (.ofKind .string) (.chunk text.toUTF8)).issued? w id := by
          simp only [Op.issued?, Op.allocation?, string?, absent]
        rw [same, Op.apply, heap_intern_of_absent absent]
        exact numbers_allocate hc hn other _ _
      case h_2 => cases placing
    | _ => cases placing

theorem numbers_act (hc : (w.collector id).Orderly) (hn : (w.collector id).heap.Numbers rs)
    (a : Act) : ((a.apply w).collector id).heap.Numbers (rs ++ (a.issued? w id).toList) := by
  obtain ⟨ops, quiet, e⟩ := a.apply_eq w
  rw [e, heap_of_areQuiet quiet, Act.issued?]
  cases a.main? with
  | none => simpa using hn
  | some o => exact numbers_apply hc hn o

theorem issued_concat (w : World) (id : CollectorId) (acts : List Act) (a : Act) :
    w.issued id (acts ++ [a]) =
      w.issued id acts ++ (a.issued? (acts.foldl Act.apply w) id).toList := by
  induction acts generalizing w with
  | nil => simp [issued]
  | cons b acts ih => simp [issued, ih]

theorem numbers_play (acts : List Act) (id : CollectorId) :
    ((play acts).collector id).heap.Numbers (issued {} id acts) := by
  induction acts using List.reverseRecOn with
  | nil => exact Heap.numbers_empty
  | append_singleton acts a ih =>
    rw [play_concat, issued_concat]
    exact numbers_act (orderly_play acts id) ih a

theorem get?_create_of_dead (hc : (w.collector id).Orderly)
    (dead : (w.collector id).isLive r = false) :
    (WeakRef.create w id r).1.get? (WeakRef.create w id r).2 = none := by
  rw [WeakRef.create, dead]
  by_cases inside : id < w.collectors.size
  · have entry := WeakRef.entry_register inside hc ⟨r, false⟩
    rw [WeakRef.get?, entry]
    rfl
  · have same : (WeakRef.register w id ⟨r, false⟩).2.collector id = w.collector id :=
      collector_setCollector_of_not (fun both => inside both.2) _
    have empty := collector_of_size_le (Nat.not_lt.mp inside)
    have key : (WeakRef.register w id ⟨r, false⟩).1.collector = id := rfl
    rw [WeakRef.get?, WeakRef.entry?, key, same, empty]
    rfl

theorem disowns_iff (hc : (w.collector id).Orderly) :
    w.Disowns id r ↔ (w.collector id).isLive r = false := by
  constructor
  · exact fun disowns => disowns.collector.isLive
  · exact fun dead => ⟨Collector.disowns_of_dead dead, get?_create_of_dead hc dead⟩

/-- A reference of another collector is stale, and protects nothing, unless the collector has issued
the same one itself. It resolves exactly when a node of the collector lies in that place and came
there as the object of the same number, up to the width of generations. -/
theorem foreign_reference_is_stale_unless_issued (acts : List Act) (a b : CollectorId) {i k : Nat}
    {r : Ref} (nth : ((issued {} a acts).filter (·.index = i))[k]? = some r) :
    (r ∉ issued {} b acts → (play acts).Disowns b r) ∧
    ((play acts).Disowns b r ↔ ((play acts).collector b).isLive r = false) ∧
    (((play acts).collector b).isLive r ↔
      (∃ s, ((play acts).collector b).isLive s ∧ s.index = i) ∧
        ((issued {} b acts).filter (·.index = i)).length % 2 ^ 32 = (k + 1) % 2 ^ 32) ∧
    ∀ p header object, (((play acts).collector b).allocate p header object).1 ≠ r →
      (play acts).Disowns b r → (((play acts).collector b).place header object).Disowns r := by
  have mine := numbers_play acts b
  have number := (numbers_play acts a).nth i k r nth
  have hc := orderly_play acts b
  obtain rfl : r.index = i := by
    have member := List.mem_of_getElem? nth
    simpa using (List.mem_filter.mp member).2
  refine ⟨fun unissued => ?_, disowns_iff hc, ?_, fun p header object other disowns => ?_⟩
  · rw [disowns_iff hc, Bool.eq_false_iff]
    exact fun live => unissued (mine.live r live)
  · rw [Collector.isLive, mine.isLive_iff number, Heap.isOccupied_iff_exists_isLive]
    rfl
  · exact Collector.disowns_place hc.heap p other disowns.collector.isLive

def twins : List Act :=
  [.op (.create {}), .op (.create {}), .op (.allocate 0 (.ofKind .chunk) (.zeros 3)),
    .op (.allocate 0 (.ofKind .chunk) (.zeros 3)), .op (.allocate 1 (.ofKind .chunk) (.zeros 3))]

theorem foreign_reference_is_stale_unless_issued_twins :
    ((issued {} 0 twins).filter (·.index = 1))[0]? = some ⟨1, 0⟩ ∧
      ⟨1, 0⟩ ∉ issued {} 1 twins ∧ (play twins).Disowns 1 ⟨1, 0⟩ ∧
    ((issued {} 0 twins).filter (·.index = 0))[0]? = some ⟨0, 0⟩ ∧
      ((play twins).collector 1).isLive ⟨0, 0⟩ := by
  have second : ((issued {} 0 twins).filter (·.index = 1))[0]? = some ⟨1, 0⟩ := by decide +kernel
  have unissued : ⟨1, 0⟩ ∉ issued {} 1 twins := by decide +kernel
  have first : ((issued {} 0 twins).filter (·.index = 0))[0]? = some ⟨0, 0⟩ := by decide +kernel
  have own : ((play twins).collector 1).isLive ⟨0, 0⟩ := by decide +kernel
  obtain ⟨stale, -⟩ := foreign_reference_is_stale_unless_issued twins 0 1 second
  obtain ⟨-, -, live, -⟩ := foreign_reference_is_stale_unless_issued twins 0 1 first
  exact ⟨second, unissued, stale unissued, first, live.mpr ⟨⟨_, own, rfl⟩, by decide +kernel⟩⟩

/-- The other collector takes the reference for the one to its own chunk, writes to that, and keeps
it through a collection. -/
theorem foreign_reference_resolves :
    ⟨0, 0⟩ ∈ issued {} 0 twins ∧ ((play twins).collector 1).isLive ⟨0, 0⟩ ∧
    ¬(play twins).Disowns 1 ⟨0, 0⟩ ∧
    ((play (twins ++ [.op (.edit 1 (.writeChunk ⟨0, 0⟩ 0 ⟨#[7]⟩))])).collector 1).bytes? ⟨0, 0⟩ =
      some ⟨#[7, 0, 0]⟩ ∧
    ((play (twins ++ [.op (.tryTrigger 1)])).collector 1).heap.live = 0 ∧
    ((play (twins ++ [.op (.keep 1 ⟨0, 0⟩), .op (.tryTrigger 1)])).collector 1).heap.live = 1 := by
  have live : ((play twins).collector 1).isLive ⟨0, 0⟩ := by decide +kernel
  refine ⟨by decide +kernel, live, ?_, by decide +kernel, by decide +kernel, by decide +kernel⟩
  intro disowns
  rw [disowns.collector.isLive] at live
  exact Bool.false_ne_true live

end World

end MarkSweep

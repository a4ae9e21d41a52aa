import MarkSweep.Proofs.Binary64
import MarkSweep.Proofs.World.Pacing

namespace MarkSweep

namespace Config

variable {c : Config} {current surviving : Nat}

theorem nextThreshold_of_grows (above : c.growth.Exceeds 1) (short : current ≠ maxWord)
    (filled : current / 2 < surviving) :
    c.nextThreshold current surviving = c.growth.scale current := by
  have grows : c.growth.leOne = false := by
    rw [← Bool.not_eq_true, Binary64.leOne_iff]
    exact fun h => h.2 above
  simp [nextThreshold, grows, short, filled]

theorem nextThreshold_of_not_exceeds (number : c.growth.isNaN = false)
    (low : ¬c.growth.Exceeds 1) : c.nextThreshold current surviving = current := by
  simp [nextThreshold, Binary64.leOne_iff.mpr ⟨number, low⟩]

theorem nextThreshold_of_isNaN (nan : c.growth.isNaN = true) (short : current ≠ maxWord)
    (filled : current / 2 < surviving) : c.nextThreshold current surviving = 0 := by
  have fails : c.growth.leOne = false := by simp [Binary64.leOne, nan]
  simp [nextThreshold, fails, short, filled, Binary64.scale, nan]

theorem le_nextThreshold (number : c.growth.isNaN = false) (word : current ≤ maxWord)
    (surviving : Nat) : current ≤ c.nextThreshold current surviving := by
  by_cases above : c.growth.Exceeds 1
  · rw [nextThreshold]
    split
    · exact Nat.le_refl current
    · exact Binary64.le_scale above word
  · exact (nextThreshold_of_not_exceeds number above).ge

theorem nextThreshold_le (c : Config) (word : current ≤ maxWord) (surviving : Nat) :
    c.nextThreshold current surviving ≤ maxWord := by
  rw [nextThreshold]
  split
  · exact word
  · exact Binary64.scale_le _ _

theorem nextThreshold_lt_iff (word : current ≤ maxWord) :
    c.nextThreshold current surviving < current ↔
      c.growth.isNaN ∧ current / 2 < surviving ∧ 0 < current ∧ current < maxWord := by
  constructor
  · intro falls
    have filled : current / 2 < surviving := by
      by_contra! half
      exact falls.ne (nextThreshold_of_le_half c half)
    have short : current ≠ maxWord := by
      rintro rfl
      exact falls.ne (nextThreshold_maxWord c surviving)
    cases nan : c.growth.isNaN with
    | true => exact ⟨rfl, filled, Nat.zero_lt_of_lt falls, lt_of_le_of_ne word short⟩
    | false => exact absurd (le_nextThreshold nan word surviving) (Nat.not_le.mpr falls)
  · rintro ⟨nan, filled, positive, short⟩
    rwa [nextThreshold_of_isNaN nan short.ne filled]

end Config

namespace Collector

structure Regrows (c c' : Collector) : Prop where
  growth : c'.config.growth = c.config.growth
  threshold : c'.threshold = c.threshold ∨
    ∃ surviving, c'.threshold = c.config.nextThreshold c.threshold surviving

variable {c c' : Collector}

theorem Regrows.threshold_eq (regrows : c.Regrows c') (top : c.threshold = maxWord) :
    c'.threshold = maxWord := by
  rcases regrows.threshold with same | ⟨surviving, e⟩
  · rw [same, top]
  · rw [e, top, Config.nextThreshold_maxWord]

theorem Regrows.threshold_le (regrows : c.Regrows c') (word : c.threshold ≤ maxWord) :
    c'.threshold ≤ maxWord := by
  rcases regrows.threshold with same | ⟨surviving, e⟩
  · rwa [same]
  · rw [e]
    exact Config.nextThreshold_le _ word surviving

theorem Regrows.le_threshold (regrows : c.Regrows c') (number : c.config.growth.isNaN = false)
    (word : c.threshold ≤ maxWord) : c.threshold ≤ c'.threshold := by
  rcases regrows.threshold with same | ⟨surviving, e⟩
  · rw [same]
  · rw [e]
    exact Config.le_nextThreshold number word surviving

end Collector

namespace World

variable {w : World} {id : CollectorId} {o : Op} {c : Collector}

theorem Op.Paces.regrows (paces : o.Paces w id c) (hh : (w.collector id).heap.Consistent) :
    (w.collector id).Regrows c := by
  cases paces with
  | idle idles => exact ⟨congrArg Config.growth idles.config, .inl idles.threshold⟩
  | setTimeout milliseconds _ idles =>
    refine ⟨?_, .inl idles.threshold⟩
    rw [idles.config]
    rfl
  | place header object _ idles =>
    rcases Collector.allocate_paces hh w.process header object with ⟨-, left⟩ | ⟨_, -, -, done⟩
    · have idles := left.trans idles
      exact ⟨congrArg Config.growth idles.config, .inl idles.threshold⟩
    · have done := idles.completes done
      exact ⟨congrArg Config.growth done.config, .inr ⟨_, done.threshold⟩⟩
  | tryTrigger _ idles =>
    rcases Collector.tryTrigger_paces hh w.process with left | done
    · have idles := left.trans idles
      exact ⟨congrArg Config.growth idles.config, .inl idles.threshold⟩
    · have done := idles.completes done
      exact ⟨congrArg Config.growth done.config, .inr ⟨_, done.threshold⟩⟩

theorem Act.regrows (hid : id < w.collectors.size) (hh : (w.collector id).heap.Consistent)
    (a : Act) : (w.collector id).Regrows ((a.apply w).collector id) := by
  rcases a.paces_apply hid with idles | ⟨o, -, paces⟩
  · exact ⟨congrArg Config.growth idles.config, .inl idles.threshold⟩
  · exact paces.regrows hh

def grown (before : List Act) (config : Config) (since : List Act) : Collector :=
  (play (before ++ .op (.create config) :: since)).collector (play before).collectors.size

section

variable (before : List Act) (config : Config) (since : List Act)

theorem grown_nil : grown before config [] = .create config (play before).process.clock := by
  rw [grown, play_concat, Act.apply, Op.apply, collector_addCollector_self]

theorem lt_size_grown : (play before).collectors.size <
    (play (before ++ .op (.create config) :: since)).collectors.size := by
  have made : (play before).collectors.size <
      (play (before ++ [.op (.create config)])).collectors.size := by
    rw [play_concat, Act.apply, Op.apply, size_addCollector]
    exact Nat.lt_succ_self _
  have exist := (accrues_play (before ++ [.op (.create config)]) since made).2
  rwa [List.append_assoc, List.singleton_append] at exist

theorem regrows_grown (a : Act) :
    (grown before config since).Regrows (grown before config (since ++ [a])) := by
  have next : grown before config (since ++ [a]) =
      (a.apply (play (before ++ .op (.create config) :: since))).collector
        (play before).collectors.size := by
    rw [grown, ← List.cons_append, ← List.append_assoc, play_concat]
  rw [next]
  exact Act.regrows (lt_size_grown before config since) (orderly_play _ _).heap a

theorem growth_grown : (grown before config since).config.growth = config.growth := by
  induction since using List.reverseRecOn with
  | nil => rw [grown_nil]; rfl
  | append_singleton since a ih => rw [(regrows_grown before config since a).growth, ih]

theorem threshold_grown_le (word : config.threshold ≤ maxWord) :
    (grown before config since).threshold ≤ maxWord := by
  induction since using List.reverseRecOn with
  | nil => rwa [grown_nil]
  | append_singleton since a ih => exact (regrows_grown before config since a).threshold_le ih

theorem threshold_grown_mono (word : config.threshold ≤ maxWord)
    (number : config.growth.isNaN = false) (more : List Act) :
    (grown before config since).threshold ≤ (grown before config (since ++ more)).threshold := by
  induction more using List.reverseRecOn with
  | nil => rw [List.append_nil]
  | append_singleton more a ih =>
    have bound := threshold_grown_le before config (since ++ more) word
    rw [← growth_grown before config (since ++ more)] at number
    rw [← List.append_assoc]
    exact ih.trans ((regrows_grown before config (since ++ more) a).le_threshold number bound)

theorem threshold_grown_top (top : (grown before config since).threshold = maxWord)
    (more : List Act) : (grown before config (since ++ more)).threshold = maxWord := by
  induction more using List.reverseRecOn with
  | nil => rwa [List.append_nil]
  | append_singleton more a ih =>
    rw [← List.append_assoc]
    exact (regrows_grown before config (since ++ more) a).threshold_eq ih

end

/-- The next threshold is below the current one for a factor that is not a number, and for no other;
so with every other factor the threshold of a collector never falls. -/
theorem threshold_falls_by_nan_alone (config : Config) {current : Nat} (word : current ≤ maxWord)
    (surviving : Nat) (before since more : List Act) (start : config.threshold ≤ maxWord) :
    (config.nextThreshold current surviving ≤ maxWord ∧
      (config.nextThreshold current surviving < current ↔
        config.growth.isNaN ∧ current / 2 < surviving ∧ 0 < current ∧ current < maxWord) ∧
      (config.growth.isNaN = false → ¬config.growth.Exceeds 1 →
        config.nextThreshold current surviving = current) ∧
      (surviving ≤ current / 2 → config.nextThreshold current surviving = current) ∧
      (config.growth.isNaN ∨ config.growth.Exceeds 1 → current ≠ maxWord → current / 2 < surviving →
        config.growth.Scales current (config.nextThreshold current surviving))) ∧
    (grown before config since).threshold ≤ maxWord ∧
    (config.growth.isNaN = false →
      (grown before config since).threshold ≤ (grown before config (since ++ more)).threshold) ∧
    ((grown before config since).threshold = maxWord →
      (grown before config (since ++ more)).threshold = maxWord) := by
  refine ⟨⟨config.nextThreshold_le word surviving, Config.nextThreshold_lt_iff word,
      Config.nextThreshold_of_not_exceeds, config.nextThreshold_of_le_half, ?_⟩,
    threshold_grown_le before config since start,
    fun number => threshold_grown_mono before config since start number more,
    fun top => threshold_grown_top before config since top more⟩
  rintro (nan | above) short filled
  · rw [Config.nextThreshold_of_isNaN nan short filled]
    exact .nan nan
  · rw [Config.nextThreshold_of_grows above short filled]
    exact Binary64.scales_of_exceeds above current

def filling : List Act :=
  [.op (.allocate 0 (.ofKind .chunk) (.zeros 3)), .op (.keep 0 ⟨0, 0⟩),
    .op (.allocate 0 (.ofKind .chunk) (.zeros 3)), .op (.keep 0 ⟨1, 0⟩)]

def slowly : Config := { threshold := 64, growth := ⟨0x3ff0000000000001⟩ }

theorem threshold_falls_by_nan_alone_barely :
    2 ^ 53 + 1 ≤ slowly.nextThreshold (2 ^ 53 + 1) (2 ^ 53) ∧
    (grown [] slowly filling).threshold ≤ (grown [] slowly (filling ++ [.trigger 0])).threshold := by
  obtain ⟨⟨-, falls, -⟩, -, mono, -⟩ := threshold_falls_by_nan_alone slowly
    (show 2 ^ 53 + 1 ≤ maxWord by decide) (2 ^ 53) [] filling [.trigger 0] (by decide)
  refine ⟨Nat.not_lt.mp fun lt => ?_, mono (by decide)⟩
  exact absurd (falls.mp lt).1 (by decide)

theorem threshold_falls_to_zero :
    ({ growth := ⟨0x7ff8000000000000⟩ } : Config).nextThreshold 1000 501 = 0 ∧
    (grown [] { threshold := 64, growth := ⟨0x7ff8000000000000⟩ } filling).threshold = 0 := by
  decide +kernel

end World

end MarkSweep

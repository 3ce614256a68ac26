import SocketMetrics.Proofs.Channel.Points
import SocketMetrics.Proofs.Number.Count
import SocketMetrics.Proofs.Sockstat.Metrics
/-!
# What the lines of a summary tell about its record

The lines of a record show the value of every metric in its own series (`pointsOf_metric`), so that
two records with the same lines have the same metrics (`metrics_eq_of_lines_eq`). Only the memory of
the two transport protocols is not published as it stands: pages become bytes, up to the greatest
counter. Where no product exceeds it, the metrics tell the record (`metrics_injective`), and
publishing loses nothing (`emission_loses_nothing`).
-/

set_option autoImplicit false
set_option relaxedAutoImplicit false

namespace SocketMetrics

open Channel Number

/-! ### Products up to the greatest counter -/

/-- Products that do not exceed the greatest counter tell their factors apart. -/
theorem Number.eq_of_saturatingMul_eq {first second factor : UInt64} (hfactor : 0 < factor)
    (hfirst : first.toNat * factor.toNat < 2 ^ 64) (hsecond : second.toNat * factor.toNat < 2 ^ 64)
    (heq : saturatingMul first factor = saturatingMul second factor) : first = second := by
  have hsize : UInt64.size = 2 ^ 64 := rfl
  have hproduct := congrArg UInt64.toNat heq
  rw [toNat_saturatingMul, toNat_saturatingMul, Nat.min_eq_left (by omega),
    Nat.min_eq_left (by omega)] at hproduct
  exact UInt64.toNat_inj.mp (Nat.mul_right_cancel (UInt64.lt_iff_toNat_lt.mp hfactor) hproduct)

namespace Sockstat

/-- The bytes of so many pages, or the greatest counter if they are more. -/
def bytes (pages pageSize : UInt64) : ℕ :=
  min (pages.toNat * pageSize.toNat) (2 ^ 64 - 1)

theorem toNat_saturatingMul_eq_bytes (pages pageSize : UInt64) :
    (saturatingMul pages pageSize).toNat = bytes pages pageSize :=
  toNat_saturatingMul pages pageSize

/-- More pages or greater ones are not less bytes. -/
theorem bytes_mono {pages pages' pageSize pageSize' : UInt64} (hpages : pages ≤ pages')
    (hpageSize : pageSize ≤ pageSize') : bytes pages pageSize ≤ bytes pages' pageSize' :=
  min_le_min_right _ (Nat.mul_le_mul (UInt64.le_iff_toNat_le.mp hpages)
    (UInt64.le_iff_toNat_le.mp hpageSize))

/-- A counter can hold the memory of the record in bytes. -/
structure FitsBytes (record : Record) (pageSize : UInt64) : Prop where
  tcp : record.tcpPages.toNat * pageSize.toNat < 2 ^ 64
  udp : ∀ pages, record.udpPages = some pages → pages.toNat * pageSize.toNat < 2 ^ 64

/-! ### Metrics and their lines -/

section Lines

variable {record first second : Record} {pageSize : UInt64}

/-- The lines of a record show the value of a metric as the only point of its series, and a missing
value as no point. -/
theorem pointsOf_metric (timestamp : Int) {metric : Metric}
    (hmetric : metric ∈ metrics record pageSize) :
    Sample.pointsOf metric.series
        (linesText ((samples timestamp record pageSize).map Sample.line)) =
      metric.value.toList.map fun value ↦ (decimalInt timestamp, decimal value.toNat) := by
  have hclean : ∀ sample ∈ samples timestamp record pageSize, sample.IsClean :=
    fun _ hsample ↦ isClean_of_mem_samples hsample
  rw [samples, Sample.pointsOf_filterMap hclean (nodup_series_metrics record pageSize)
    (fun _ _ ↦ series_of_value) hmetric]
  cases metric.value <;> rfl

/-- A numeral and a time tell the number. -/
theorem point_injective (timestamp : Int) : Function.Injective fun value : UInt64 ↦
    (decimalInt timestamp, decimal value.toNat) := by
  intro value other heq
  exact UInt64.toNat_inj.mp (decimal_injective (congrArg Prod.snd heq))

/-- Records with the same lines have the same metrics. -/
theorem metrics_eq_of_lines_eq {timestamp : Int}
    (hlines : linesText ((samples timestamp first pageSize).map Sample.line) =
      linesText ((samples timestamp second pageSize).map Sample.line)) :
    metrics first pageSize = metrics second pageSize := by
  have hlabels : (metrics first pageSize).map Metric.label =
      (metrics second pageSize).map Metric.label := rfl
  rw [← List.forall₂_eq_eq_eq, List.forall₂_map_left_iff, List.forall₂_map_right_iff,
    List.forall₂_iff_zip] at hlabels
  rw [← List.forall₂_eq_eq_eq, List.forall₂_iff_zip]
  refine ⟨hlabels.1, fun {one other} hboth ↦ ?_⟩
  have hlabel : one.label = other.label := hlabels.2 hboth
  obtain ⟨hone, hother⟩ := List.of_mem_zip hboth
  have hpoints := pointsOf_metric timestamp hone
  rw [Metric.series, hlabel, hlines] at hpoints
  have hvalues : other.value.toList = one.value.toList :=
    List.map_injective_iff.mpr (point_injective timestamp)
      ((pointsOf_metric timestamp hother).symm.trans hpoints)
  have hvalue : one.value = other.value := by
    rw [← Option.head?_toList (o := one.value), ← hvalues, Option.head?_toList]
  obtain ⟨hname, htags⟩ := Prod.mk.inj hlabel
  cases one
  cases other
  exact Metric.mk.injEq .. ▸ ⟨hname, htags, hvalue⟩

/-- The metrics tell the record where its memory is counted in full. -/
theorem metrics_injective (hpageSize : 0 < pageSize) (hfirst : FitsBytes first pageSize)
    (hsecond : FitsBytes second pageSize)
    (hmetrics : metrics first pageSize = metrics second pageSize) : first = second := by
  simp only [metrics, List.cons.injEq, Metric.mk.injEq, Option.some.injEq, true_and, and_true]
    at hmetrics
  obtain ⟨htcpAllocated, htcpTimeWait, htcpInUse, hudpInUse, hudplite, hraw, horphans, htcpPages,
    hudpPages, hfragmentMemory, hfragmentQueues⟩ := hmetrics
  have htcp : first.tcpPages = second.tcpPages :=
    eq_of_saturatingMul_eq hpageSize hfirst.tcp hsecond.tcp htcpPages
  have hudp : first.udpPages = second.udpPages := by
    cases hone : first.udpPages with
    | none => simpa [hone, eq_comm] using hudpPages
    | some pages =>
      rw [hone, Option.map_some] at hudpPages
      obtain ⟨pages', hother, heq⟩ := Option.map_eq_some_iff.mp hudpPages.symm
      rw [hother, eq_of_saturatingMul_eq hpageSize (hfirst.udp pages hone)
        (hsecond.udp pages' hother) heq.symm]
  cases first
  cases second
  simp_all only

end Lines

/-- **The lines of a record lose nothing and wrap around nowhere.** Two records whose memory in
bytes a counter can hold are equal if they are written as the same text. The lines of every record
are one for each field that is present, and the memory of a transport protocol comes out in bytes,
up to the greatest counter: more pages or greater ones never come out as less. -/
theorem emission_loses_nothing {emitter : Emitter} (hstreams : emitter.streams.NeverFail)
    (pageSize : UInt64) :
    (0 < pageSize → ∀ first second : Record, FitsBytes first pageSize →
      FitsBytes second pageSize →
      (emitter.deliver ((samples emitter.timestamp first pageSize).map
          Entry.metric)).1.streams.out.written =
        (emitter.deliver ((samples emitter.timestamp second pageSize).map
          Entry.metric)).1.streams.out.written →
      first = second) ∧
    (∀ record : Record, ∃ text delivered,
      emitter.deliver ((samples emitter.timestamp record pageSize).map Entry.metric) =
        (delivered, none) ∧
      delivered.streams.out.written = emitter.streams.out.written ++ text ∧
      delivered.streams.err = emitter.streams.err ∧
      text.lineFeeds + record.missing = 11 ∧
      Sample.pointsOf ("net.sockstat.memory".toList, some "type=tcp".toList) text =
        [(decimalInt emitter.timestamp, decimal (bytes record.tcpPages pageSize))] ∧
      Sample.pointsOf ("net.sockstat.memory".toList, some "type=udp".toList) text =
        record.udpPages.toList.map fun pages ↦
          (decimalInt emitter.timestamp, decimal (bytes pages pageSize))) ∧
    ∀ pages pages' pageSize' : UInt64, pages ≤ pages' → pageSize ≤ pageSize' →
      bytes pages pageSize ≤ bytes pages' pageSize' := by
  simp only [Emitter.deliver_of_neverFail hstreams, Emitter.deliveredAll, metricLines_map_metric,
    messageLines_map_metric, linesText_nil, Sink.append_nil]
  refine ⟨fun hpageSize first second hfirst hsecond hwritten ↦ ?_, fun record ↦ ?_,
    fun pages pages' pageSize' hpages hle ↦ bytes_mono hpages hle⟩
  · exact metrics_injective hpageSize hfirst hsecond
      (metrics_eq_of_lines_eq (List.append_cancel_left hwritten))
  · refine ⟨_, _, rfl, rfl, rfl, ?_, ?_, ?_⟩
    · have hlines : ∀ line ∈ (samples emitter.timestamp record pageSize).map Sample.line,
          '\n' ∉ line := by
        intro line hline
        obtain ⟨sample, hsample, rfl⟩ := List.mem_map.mp hline
        exact (isClean_of_mem_samples hsample).lineFeed_not_mem_line
      rw [Text.lineFeeds_linesText hlines, List.length_map]
      exact (length_samples emitter.timestamp record pageSize).2
    · have htcp : ⟨"memory".toList, some "type=tcp".toList,
          some (saturatingMul record.tcpPages pageSize)⟩ ∈ metrics record pageSize := by
        simp [metrics]
      rw [← toNat_saturatingMul_eq_bytes]
      exact pointsOf_metric emitter.timestamp htcp
    · have hudp : ⟨"memory".toList, some "type=udp".toList,
          record.udpPages.map fun pages ↦ saturatingMul pages pageSize⟩ ∈
          metrics record pageSize := by
        simp [metrics]
      have hpoints := pointsOf_metric emitter.timestamp hudp
      simp only [← toNat_saturatingMul_eq_bytes]
      cases hpages : record.udpPages <;> rwa [hpages] at hpoints

/-- A record without pages for datagrams and one with no such field are written differently. -/
theorem emission_tells_zero_from_missing :
    ((Emitter.start .unbounded 0).deliver
        ((samples 0 ⟨1, 2, 0, 0, 3, 4, some 0, none, 0, 0, 0⟩ 4096).map
          Entry.metric)).1.streams.out.written ≠
      ((Emitter.start .unbounded 0).deliver
        ((samples 0 ⟨1, 2, 0, 0, 3, 4, none, none, 0, 0, 0⟩ 4096).map
          Entry.metric)).1.streams.out.written := by
  intro hwritten
  have hstreams : (Emitter.start .unbounded 0).streams.NeverFail := ⟨⟨rfl, rfl⟩, ⟨rfl, rfl⟩⟩
  have heq := (emission_loses_nothing hstreams 4096).1 (by decide) _ _ ⟨by decide, by simp⟩
    ⟨by decide, by simp⟩ hwritten
  exact absurd heq (by decide)

end Sockstat

end SocketMetrics

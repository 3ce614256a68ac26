import Mathlib.Data.Set.Card
import SocketMetrics.Proofs.Channel.Lines
import SocketMetrics.Proofs.Netstat.Metrics
/-!
# Publishing a table and looking its counters up

A table is published by going through the list of published counters, and a single counter can be
looked up by its name. `Table.published` lists the counters of a table that are published, section
by section and in the order of that list; they are the ones that the lookup finds
(`Table.mem_published_iff`). Each of them becomes exactly one line, under the metric that the lookup
gives, or one message (`Table.forall₂_writes`), so that `writes_each_published_once` counts as many
lines and messages as there are published counters.
-/

set_option autoImplicit false
set_option relaxedAutoImplicit false

namespace SocketMetrics.Netstat

open Channel Number Steps

/-! ### Looking counters up -/

/-- The published counters have different names. -/
theorem nodup_counter_counters : (counters.map Counter.counter).Nodup := by
  decide +kernel

/-- The lookup finds the published counter of a name. -/
theorem Counter.find?_of_mem {counter : Counter} (hcounter : counter ∈ counters) :
    find? counter.counter = some counter :=
  find?_key_eq_some nodup_counter_counters hcounter

/-- The lookup finds a metric for the names of the published counters and for no others. -/
theorem Published.isSome_find?_iff {sectionName counter : Text} :
    (find? sectionName counter).isSome ↔ counter ∈ counters.map Counter.counter := by
  simp [find?, Counter.find?]

/-- The value of a counter in a section, as it was written, if the table has it. -/
def Table.raw? (table : Table) (of : Section) (counter : Text) : Option Text :=
  (table.section? of.name).bind fun counters ↦ counters.raw? counter

/-- A section of a table is found by its name. -/
theorem Table.section?_of_mem {table : Table} (hsections : (table.map Counters.of).Nodup)
    {counters : Counters} (hcounters : counters ∈ table) :
    table.section? counters.of.name = some counters := by
  have hnames : (table.map fun counters ↦ counters.of.name).Nodup := by
    simpa [Function.comp_def] using hsections.map name_injective
  exact find?_key_eq_some hnames hcounters

theorem Table.raw?_of_mem {table : Table} (hsections : (table.map Counters.of).Nodup)
    {counters : Counters} (hcounters : counters ∈ table) (counter : Text) :
    table.raw? counters.of counter = counters.raw? counter := by
  rw [Table.raw?, section?_of_mem hsections hcounters, Option.bind_some]

/-- A table has values only in its own sections. -/
theorem Table.mem_of_isSome_raw? {table : Table} {of : Section} {counter : Text}
    (hraw : (table.raw? of counter).isSome) : of ∈ table.map Counters.of := by
  obtain ⟨raw, hraw⟩ := Option.isSome_iff_exists.mp hraw
  obtain ⟨counters, hfound, -⟩ := Option.bind_eq_some_iff.mp hraw
  have hname : counters.of.name = of.name := by simpa using List.find?_some hfound
  rw [← name_injective hname]
  exact List.mem_map_of_mem (List.mem_of_find?_eq_some hfound)

/-! ### The published counters of a table -/

/-- The table has the counter in the section, and the lookup finds a metric for it. -/
def Table.Publishes (table : Table) (pair : Section × Text) : Prop :=
  (table.raw? pair.1 pair.2).isSome ∧ (Published.find? pair.1.name pair.2).isSome

/-- The counters of a table that are published: section by section in the order of the table, and
within a section in the order of the list of published counters. -/
def Table.published (table : Table) : List (Section × Text) :=
  (table.map Counters.of ×ˢ counters.map Counter.counter).filter fun pair ↦
    (table.raw? pair.1 pair.2).isSome

/-- What is written for a counter of a section, by its value and by the metric that the lookup
finds for it. -/
inductive Table.Writes (table : Table) (timestamp : Int) : Section × Text → Entry → Prop where
  /-- A number becomes a line under the metric of the lookup. -/
  | line {of : Section} {counter raw : Text} {metric : Published} {value : UInt64}
      (hraw : table.raw? of counter = some raw) (hcount : IsCount raw value.toNat)
      (hmetric : Published.find? of.name counter = some metric) :
      table.Writes timestamp (of, counter)
        (.metric ⟨metric.group, metric.metric, timestamp, value, metric.tags⟩)
  /-- Any other value becomes a message that names the counter. -/
  | message {of : Section} {counter raw : Text} (hraw : table.raw? of counter = some raw)
      (hcount : ∀ n, ¬ IsCount raw n) :
      table.Writes timestamp (of, counter)
        (.diagnostic (TableError.invalidValue of counter raw).message)

section Table

variable {table : Table}

/-- The published counters of a table are those that the lookup finds. -/
theorem Table.mem_published_iff {pair : Section × Text} :
    pair ∈ table.published ↔ table.Publishes pair := by
  rw [published, List.mem_filter, List.mem_product, Publishes, Published.isSome_find?_iff]
  constructor
  · rintro ⟨⟨-, hcounter⟩, hraw⟩
    exact ⟨hraw, hcounter⟩
  · rintro ⟨hraw, hcounter⟩
    exact ⟨⟨mem_of_isSome_raw? hraw, hcounter⟩, hraw⟩

theorem Table.nodup_published (hsections : (table.map Counters.of).Nodup) :
    table.published.Nodup :=
  (hsections.product nodup_counter_counters).filter _

/-- As many counters are published as the lookup finds. -/
theorem Table.length_published (hsections : (table.map Counters.of).Nodup) :
    table.published.length = {pair | table.Publishes pair}.ncard := by
  have hset : {pair | table.Publishes pair} = ↑table.published.toFinset := by
    ext pair
    simp [mem_published_iff]
  rw [hset, Set.ncard_coe_finset, List.toFinset_card_of_nodup (nodup_published hsections)]

/-- The sections with the names of the published counters. -/
theorem Table.map_cells (table : Table) :
    ((table ×ˢ counters).map fun cell ↦ (cell.1.of, cell.2.counter)) =
      table.map Counters.of ×ˢ counters.map Counter.counter := by
  simp [SProd.sprod, List.product, List.flatMap_map, List.map_flatMap, Function.comp_def]

theorem Table.published_eq_map (hsections : (table.map Counters.of).Nodup) :
    table.published = ((table ×ˢ counters).filter fun cell ↦
      (cell.1.raw? cell.2.counter).isSome).map fun cell ↦ (cell.1.of, cell.2.counter) := by
  rw [published, ← map_cells, List.filter_map]
  refine congrArg (List.map _) (List.filter_congr fun cell hcell ↦ ?_)
  have hmem := (List.mem_product.mp hcell).1
  exact congrArg Option.isSome (raw?_of_mem hsections hmem cell.2.counter)

/-- Each published counter of a table becomes one line or one message. -/
theorem Table.forall₂_writes (hsections : (table.map Counters.of).Nodup) (timestamp : Int) :
    List.Forall₂ (table.Writes timestamp) table.published (table.entries timestamp) := by
  rw [published_eq_map hsections, entries_eq_filterMap, List.forall₂_map_left_iff]
  refine forall₂_filter_filterMap fun ⟨counters, counter⟩ hcell ↦ ?_
  obtain ⟨hcounters, hcounter⟩ := List.mem_product.mp hcell
  have htable := raw?_of_mem hsections hcounters counter.counter
  cases hraw : counters.raw? counter.counter with
  | none => exact Or.inl ⟨rfl, Counters.entry?_of_missing hraw timestamp⟩
  | some raw =>
    rw [hraw] at htable
    refine Or.inr ⟨rfl, ?_⟩
    by_cases hcount : ∃ n, IsCount raw n
    · obtain ⟨n, hcount⟩ := hcount
      obtain ⟨value, -, rfl⟩ := isCount_iff.mp hcount
      have hmetric : Published.find? counters.of.name counter.counter =
          some ⟨sectionGroup counters.of.name, counter.metric, counter.tags⟩ := by
        rw [Published.find?, Counter.find?_of_mem hcounter, Option.map_some]
      exact ⟨_, Counters.entry?_of_isCount hraw hcount timestamp, .line htable hcount hmetric⟩
    · push Not at hcount
      exact ⟨_, Counters.entry?_of_not_isCount hraw hcount timestamp, .message htable hcount⟩

end Table

/-! ### Publishing a table that was read -/

/-- **Publishing by the list and looking up by the name agree.** Over streams that never fail, a
table that was read adds one line to the output stream or one message to the error stream for each
of its counters that the lookup finds, section by section and in the order of the published
counters, and nothing else. -/
theorem writes_each_published_once {content : Text} {table : Table}
    (hread : (Table.read content).table = .ok table) {emitter : Emitter}
    (hstreams : emitter.streams.NeverFail) :
    table.published.Nodup ∧ (∀ pair, pair ∈ table.published ↔ table.Publishes pair) ∧
      ∃ entries out err delivered,
        List.Forall₂ (table.Writes emitter.timestamp) table.published entries ∧
        emitter.deliver (table.entries emitter.timestamp) = (delivered, none) ∧
        delivered.streams.out.written = emitter.streams.out.written ++ out ∧
        delivered.streams.err.written = emitter.streams.err.written ++ err ∧
        out = linesText (metricLines entries) ∧ err = linesText (messageLines entries) ∧
        out.lineFeeds + err.lineFeeds = {pair | table.Publishes pair}.ncard := by
  have hsections := nodup_map_of hread
  have hwrites := Table.forall₂_writes hsections emitter.timestamp
  have hentries : ∀ entry ∈ table.entries emitter.timestamp, entry.IsOneLine :=
    fun _ hentry ↦ isOneLine_of_mem_entries hentry
  have hone := lineFeed_not_mem_of_isOneLine hentries
  refine ⟨Table.nodup_published hsections, fun _ ↦ Table.mem_published_iff,
    table.entries emitter.timestamp, _, _, _, hwrites, Emitter.deliver_of_neverFail hstreams _,
    rfl, rfl, rfl, rfl, ?_⟩
  rw [Text.lineFeeds_linesText hone.1, Text.lineFeeds_linesText hone.2,
    length_metricLines_add_length_messageLines, ← Table.length_published hsections,
    hwrites.length_eq]

/-- Of three counters, one is published as a line and one as a message, and one is not published. -/
theorem writes_line_and_message :
    let content := "Tcp: InErrs Other OutRsts\nTcp: x 6 +05\n".toList
    let table : Table := [⟨.tcp, [("OutRsts".toList, "+05".toList), ("Other".toList, "6".toList),
      ("InErrs".toList, "x".toList)]⟩]
    (Table.read content).table = .ok table ∧
      table.published = [(.tcp, "OutRsts".toList), (.tcp, "InErrs".toList)] ∧
      ((Emitter.start .unbounded 7).deliver (table.entries 7)).1.streams.out.written =
        "net.stat.tcp.resets 7 5 direction=out\n".toList ∧
      {pair | table.Publishes pair}.ncard = 2 := by
  intro content table
  have hread : (Table.read content).table = .ok table := by decide +kernel
  have hstreams : (Emitter.start .unbounded 7).streams.NeverFail := ⟨⟨rfl, rfl⟩, ⟨rfl, rfl⟩⟩
  have hdelivered : let delivered := ((Emitter.start .unbounded 7).deliver (table.entries 7)).1
      delivered.streams.out.written = "net.stat.tcp.resets 7 5 direction=out\n".toList ∧
        delivered.streams.err.written.lineFeeds = 1 := by
    decide +kernel
  obtain ⟨-, -, entries, out, err, delivered, -, hdeliver, hout, herr, -, -, hcount⟩ :=
    writes_each_published_once hread hstreams
  change (Emitter.start .unbounded 7).deliver (table.entries 7) = (delivered, none) at hdeliver
  refine ⟨hread, by decide +kernel, hdelivered.1, ?_⟩
  rw [hdeliver] at hdelivered
  obtain ⟨hshown, hmessages⟩ := hdelivered
  rw [hout] at hshown
  rw [herr] at hmessages
  change out = _ at hshown
  change err.lineFeeds = 1 at hmessages
  rw [← hcount, hshown, hmessages]
  decide

end SocketMetrics.Netstat

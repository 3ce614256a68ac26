import Mathlib.Data.List.Induction
import Mathlib.Data.List.Nodup
import SocketMetrics.Proofs.Netstat.Format
import SocketMetrics.Proofs.Text.Spacing
/-!
# Protocol counter tables laid out in any way

A `Listing` is a section with its counters, fit to be written. A text that holds listings is made
of pieces: the two lines of each listing, under any headers that fold into its section, and lines
that do not count, namely blank ones, ones under the header that is not collected and ones under
unknown headers. `Arranges listings pieces` lets the lines of different listings take turns, as
long as the names of a listing stand in front of its values. Whatever the arrangement is and
whatever white space and line ends are chosen for it, reading the text gives the listings back, in
the order of their first lines and with the overflows taken out of the drops, and one warning for
each line under an unknown header (`reads_back_every_layout`).
-/

set_option autoImplicit false
set_option relaxedAutoImplicit false

namespace SocketMetrics.Netstat

open Number Steps

/-! ### Listings -/

/-- A section with its counters: the names are different words and the values are words, and where
the drops are counted they and the overflows are numbers. -/
structure Listing where
  of : Section
  entries : List (Text × Text)
  nodup_names : (entries.map Prod.fst).Nodup
  isWord : ∀ entry ∈ entries, entry.1.IsWord ∧ entry.2.IsWord
  drops : ∀ raw, (listenDrops, raw) ∈ entries → ∃ n, IsCount raw n
  overflows : ∀ raw, listenDrops ∈ entries.map Prod.fst → (listenOverflows, raw) ∈ entries →
    ∃ n, IsCount raw n

namespace Listing

variable (listing : Listing)

def names : List Text :=
  listing.entries.map Prod.fst

def values : List Text :=
  listing.entries.map Prod.snd

/-- The number of overflows, zero where they are not counted. -/
def OverflowCount (overflows : ℕ) : Prop :=
  (listenOverflows ∉ listing.names ∧ overflows = 0) ∨
    ∃ raw, (listenOverflows, raw) ∈ listing.entries ∧ IsCount raw overflows

/-- The value of a counter once the overflows are taken out of the drops. -/
def Corrected (name raw : Text) : Prop :=
  if name = listenDrops then
    ∃ written drops overflows, (listenDrops, written) ∈ listing.entries ∧ IsCount written drops ∧
      listing.OverflowCount overflows ∧ raw = decimal (drops - overflows)
  else (name, raw) ∈ listing.entries

/-- The counters of the section are those of the listing, corrected. -/
structure IsShownBy (counters : Counters) : Prop where
  of_eq : counters.of = listing.of
  raw?_iff : ∀ name raw, counters.raw? name = some raw ↔ listing.Corrected name raw

theorem mem_names_iff {name : Text} :
    name ∈ listing.names ↔ ∃ raw, (name, raw) ∈ listing.entries := by
  simp [names]

theorem lastColumn_iff (name raw : Text) :
    LastColumn listing.names listing.values name raw ↔ (name, raw) ∈ listing.entries :=
  lastColumn_map_iff_mem listing.nodup_names name raw

theorem inForce_iff (name raw : Text) :
    InForce listing.names listing.values name raw ↔ listing.Corrected name raw := by
  simp only [InForce, Corrected, Netstat.OverflowCount, OverflowCount, lastColumn_iff]

/-- The two lines of a listing can be read. -/
theorem wellFormedRows : WellFormedRows listing.names listing.values where
  length_eq := by simp [names, values]
  drops hlisted := by
    obtain ⟨raw, hraw⟩ := listing.mem_names_iff.mp hlisted
    obtain ⟨drops, hdrops⟩ := listing.drops raw hraw
    exact ⟨raw, drops, (listing.lastColumn_iff _ _).mpr hraw, hdrops⟩
  overflows hlisted hcounted := by
    obtain ⟨raw, hraw⟩ := listing.mem_names_iff.mp hcounted
    obtain ⟨overflows, hoverflows⟩ := listing.overflows raw hlisted hraw
    exact ⟨raw, overflows, (listing.lastColumn_iff _ _).mpr hraw, hoverflows⟩

end Listing

/-! ### Pieces -/

/-- One of the two lines of a listing. -/
inductive Half where
  | names
  | values
deriving DecidableEq

/-- The words of a line of a listing, behind its header. -/
def Listing.cells (listing : Listing) : Half → List Text
  | .names => listing.names
  | .values => listing.values

/-- A line of a text that holds listings. -/
inductive Piece where
  /-- A line of a listing, under a header that folds into its section. -/
  | row (header : Text) (listing : Listing) (half : Half)
      (hheader : Section.ofHeader? header = some listing.of)
  /-- A line without a word. -/
  | blank
  /-- A line under the header that is not collected. -/
  | unsupported (cells : List Text) (hcells : ∀ cell ∈ cells, cell.IsWord)
  /-- A line under an unknown header. -/
  | unknown (header : Text) (cells : List Text) (hwords : ∀ word ∈ header :: cells, word.IsWord)
      (hunsupported : header ≠ unsupportedHeader) (hheader : Section.ofHeader? header = none)

/-- The words of a line. -/
def Piece.words : Piece → List Text
  | row header listing half _ => header :: listing.cells half
  | blank => []
  | unsupported cells _ => unsupportedHeader :: cells
  | unknown header cells _ _ _ => header :: cells

/-- Which line of which listing a piece is, if it is one. -/
def Piece.half? : Piece → Option (Listing × Half)
  | row _ listing half _ => some (listing, half)
  | blank | unsupported .. | unknown .. => none

/-- The words of a line under an unknown header. -/
def Piece.unknown? : Piece → Option (List Text)
  | unknown header cells _ _ _ => some (header :: cells)
  | row .. | blank | unsupported .. => none

/-- The lines of listings among the pieces. -/
def halves (pieces : List Piece) : List (Listing × Half) :=
  pieces.filterMap Piece.half?

/-- The listing that a line of names introduces. -/
def introduced? : Listing × Half → Option Listing
  | (listing, .names) => some listing
  | (_, .values) => none

/-- The listings in the order of their first lines. -/
def introduced (pieces : List Piece) : List Listing :=
  (halves pieces).filterMap introduced?

/-- The two lines of a listing. -/
def Listing.halves (listing : Listing) : List (Listing × Half) :=
  [(listing, .names), (listing, .values)]

/-- The pieces hold the two lines of each listing, the names in front of the values, and no other
lines of listings. -/
structure Arranges (listings : List Listing) (pieces : List Piece) : Prop where
  nodup_sections : (listings.map Listing.of).Nodup
  perm : (halves pieces).Perm (listings.flatMap Listing.halves)
  names_first : ∀ listing ∈ listings, listing.halves.Sublist (halves pieces)

theorem isWord_of_ofHeader? {header : Text} {of : Section}
    (hheader : Section.ofHeader? header = some of) : header.IsWord := by
  have hall : ∀ entry ∈ headers, entry.1.IsWord := by decide
  obtain ⟨before, after, hheaders, -⟩ := List.lookup_eq_some_iff.mp hheader
  exact hall (header, of) (by simp [hheaders])

theorem Piece.isWord (piece : Piece) : ∀ word ∈ piece.words, word.IsWord := by
  cases piece with
  | row header listing half hheader =>
    refine List.forall_mem_cons.mpr ⟨isWord_of_ofHeader? hheader, fun word hword ↦ ?_⟩
    cases half with
    | names =>
      obtain ⟨entry, hentry, rfl⟩ := List.mem_map.mp hword
      exact (listing.isWord entry hentry).1
    | values =>
      obtain ⟨entry, hentry, rfl⟩ := List.mem_map.mp hword
      exact (listing.isWord entry hentry).2
  | blank => exact fun _ hword ↦ absurd hword List.not_mem_nil
  | unsupported cells hcells => exact List.forall_mem_cons.mpr ⟨by decide, hcells⟩
  | unknown header cells hwords _ _ => exact hwords

/-! ### The lines of a text -/

/-- A line with the words of a piece is a row of a section when the piece is. -/
theorem row?_of_words_eq {line : Text} {piece : Piece} (hline : line.words = piece.words) :
    row? line = piece.half?.map fun half ↦ (half.1.of, half.1.cells half.2) := by
  unfold row?
  cases piece with
  | row header listing half hheader => simp [hline, Piece.words, Piece.half?, hheader]
  | blank => simp [hline, Piece.words, Piece.half?]
  | unsupported cells hcells =>
    simp [hline, Piece.words, Piece.half?, ofHeader?_unsupportedHeader]
  | unknown header cells _ _ hheader => simp [hline, Piece.words, Piece.half?, hheader]

theorem unknown?_of_words_eq {line : Text} {piece : Piece} (hline : line.words = piece.words) :
    unknown? line = piece.unknown? := by
  unfold unknown?
  cases piece with
  | row header listing half hheader => simp [hline, Piece.words, Piece.unknown?, hheader]
  | blank => simp [hline, Piece.words, Piece.unknown?]
  | unsupported cells hcells => simp [hline, Piece.words, Piece.unknown?]
  | unknown header cells _ hunsupported hheader =>
    simp [hline, Piece.words, Piece.unknown?, hheader, hunsupported]

section Lines

variable {pieces : List Piece} {lines : List Text}
  (hlines : List.Forall₂ (fun piece line ↦ Text.words line = piece.words) pieces lines)

include hlines

theorem filterMap_row?_eq :
    lines.filterMap row? = (halves pieces).map fun half ↦ (half.1.of, half.1.cells half.2) := by
  rw [halves, List.map_filterMap]
  induction hlines with
  | nil => rfl
  | cons hline _ ih => simp only [List.filterMap_cons, row?_of_words_eq hline, ih]

theorem rowsOf_eq (of : Section) :
    rowsOf of lines = ((halves pieces).filter fun half ↦ half.1.of = of).map fun half ↦
      half.1.cells half.2 := by
  have hrows : rowsOf of lines =
      (lines.filterMap row?).filterMap fun row ↦ if row.1 = of then some row.2 else none :=
    List.filterMap_filterMap.symm
  rw [hrows, filterMap_row?_eq hlines, List.filterMap_map, ← List.filterMap_eq_map,
    List.filterMap_filter]
  simp

theorem sectionsOf_eq :
    sectionsOf lines = ((halves pieces).map fun half ↦ half.1.of).eraseDups := by
  have hsections : lines.filterMap (fun line ↦ (row? line).map Prod.fst) =
      (lines.filterMap row?).map Prod.fst := List.map_filterMap.symm
  rw [sectionsOf, hsections, filterMap_row?_eq hlines, List.map_map]
  rfl

theorem unknownOf_eq : unknownOf lines = pieces.filterMap Piece.unknown? := by
  unfold unknownOf
  induction hlines with
  | nil => rfl
  | cons hline _ ih => simp only [List.filterMap_cons, unknown?_of_words_eq hline, ih]

end Lines

/-! ### Arrangements -/

section Arrangement

variable {listings : List Listing} {listing : Listing} {pieces : List Piece}

theorem filter_halves_self (listing : Listing) :
    listing.halves.filter (fun half ↦ half.1.of = listing.of) = listing.halves := by
  simp [Listing.halves]

/-- Of the lines of listings of different sections, two belong to each section. -/
theorem filter_flatMap_halves (hnodup : (listings.map Listing.of).Nodup)
    (hlisting : listing ∈ listings) :
    (listings.flatMap Listing.halves).filter (fun half ↦ half.1.of = listing.of) =
      listing.halves := by
  have hother {other : Listing} (hne : other.of ≠ listing.of) :
      other.halves.filter (fun half ↦ half.1.of = listing.of) = [] := by
    simp [Listing.halves, hne]
  induction listings with
  | nil => simp at hlisting
  | cons first rest ih =>
    rw [List.map_cons, List.nodup_cons] at hnodup
    rw [List.flatMap_cons, List.filter_append]
    rcases List.mem_cons.mp hlisting with rfl | hrest
    · have hnone : (rest.flatMap Listing.halves).filter
          (fun half ↦ half.1.of = listing.of) = [] := by
        rw [List.filter_flatMap, List.flatMap_eq_nil_iff]
        exact fun other hmem ↦ hother fun heq ↦ hnodup.1 (heq ▸ List.mem_map_of_mem hmem)
      rw [hnone, filter_halves_self, List.append_nil]
    · have hne : first.of ≠ listing.of := fun heq ↦
        hnodup.1 (heq ▸ List.mem_map_of_mem hrest)
      rw [hother hne, ih hnodup.2 hrest, List.nil_append]

/-- The lines of a section are the two of its listing, the names in front of the values. -/
theorem Arranges.filter_halves_eq (harranged : Arranges listings pieces)
    (hlisting : listing ∈ listings) :
    (halves pieces).filter (fun half ↦ half.1.of = listing.of) = listing.halves := by
  have hperm := harranged.perm.filter fun half ↦ half.1.of = listing.of
  rw [filter_flatMap_halves harranged.nodup_sections hlisting] at hperm
  have hordered := (harranged.names_first listing hlisting).filter
    fun half ↦ half.1.of = listing.of
  rw [filter_halves_self] at hordered
  exact (hordered.eq_of_length hperm.length_eq.symm).symm

theorem Arranges.mem_listings (harranged : Arranges listings pieces) {half : Listing × Half}
    (hhalf : half ∈ halves pieces) : half.1 ∈ listings := by
  obtain ⟨listing, hlisting, hmem⟩ := List.mem_flatMap.mp (harranged.perm.mem_iff.mp hhalf)
  simp only [Listing.halves, List.mem_cons, List.not_mem_nil, or_false] at hmem
  rcases hmem with rfl | rfl
  · exact hlisting
  · exact hlisting

/-- A line of a listing is the one of its names when its section has not come before. -/
theorem Arranges.names_iff (harranged : Arranges listings pieces)
    {before after : List (Listing × Half)} {half : Listing × Half}
    (hhalves : halves pieces = before ++ half :: after) :
    half.2 = .names ↔ half.1.of ∉ before.map fun half ↦ half.1.of := by
  have hmember : half ∈ halves pieces := by simp [hhalves]
  have hfilter := harranged.filter_halves_eq (harranged.mem_listings hmember)
  rw [hhalves, List.filter_append, List.filter_cons_of_pos (by simp)] at hfilter
  have hmem : half.1.of ∈ before.map (fun half ↦ half.1.of) ↔
      before.filter (fun earlier ↦ earlier.1.of = half.1.of) ≠ [] := by
    simp [List.filter_eq_nil_iff]
  rw [hmem, not_not]
  obtain ⟨listing, part⟩ := half
  cases hbefore : before.filter (fun earlier ↦ earlier.1.of = listing.of) with
  | nil =>
    simp only [hbefore, Listing.halves, List.nil_append, List.cons.injEq, Prod.mk.injEq,
      true_and] at hfilter
    exact iff_of_true hfilter.1 rfl
  | cons earlier others =>
    refine iff_of_false ?_ (List.cons_ne_nil _ _)
    rw [hbefore, Listing.halves, List.cons_append, List.cons.injEq] at hfilter
    cases others with
    | nil =>
      simp only [List.nil_append, List.cons.injEq, Prod.mk.injEq, true_and] at hfilter
      rw [hfilter.2.1]
      exact Half.noConfusion
    | cons second others => simp at hfilter

/-- Where the first line of every section is the one of its names, the sections come in the order
of these lines. -/
theorem eraseDups_sections {halves : List (Listing × Half)}
    (hnames : ∀ before half after, halves = before ++ half :: after →
      (half.2 = .names ↔ half.1.of ∉ before.map fun half ↦ half.1.of)) :
    (halves.map fun half ↦ half.1.of).eraseDups =
      (halves.filterMap introduced?).map Listing.of := by
  induction halves using List.reverseRecOn with
  | nil => simp
  | append_singleton halves half ih =>
    have hhalf := hnames halves half [] rfl
    have hearlier := ih fun before earlier after heq ↦
      hnames before earlier (after ++ [half]) (by simp [heq])
    rw [List.map_append, List.eraseDups_append, hearlier, List.filterMap_append, List.map_append]
    congr 1
    obtain ⟨listing, part⟩ := half
    cases part with
    | names =>
      have hnew := hhalf.mp rfl
      simp [List.removeAll, hnew, introduced?, List.eraseDups_cons]
    | values =>
      have hmet := not_not.mp (mt hhalf.mpr Half.noConfusion)
      simp [List.removeAll, hmet, introduced?]

theorem Arranges.introduced_perm (harranged : Arranges listings pieces) :
    (introduced pieces).Perm listings := by
  have hperm := harranged.perm.filterMap introduced?
  have hlistings : (listings.flatMap Listing.halves).filterMap introduced? = listings := by
    rw [List.filterMap_flatMap]
    exact List.flatMap_singleton' listings
  rwa [hlistings] at hperm

/-! ### Reading -/

/-- The lines of a text have the words of the pieces, and an empty line may follow. -/
theorem exists_forall₂_lines {text : Text} (htext : Text.LaidOut (pieces.map Piece.words) text) :
    ∃ all, List.Forall₂ (fun piece line ↦ Text.words line = piece.words) all text.lines ∧
      halves all = halves pieces ∧
      all.filterMap Piece.unknown? = pieces.filterMap Piece.unknown? := by
  have hwords : ∀ words ∈ pieces.map Piece.words, ∀ word ∈ words, word.IsWord := by
    intro words hwords
    obtain ⟨piece, -, rfl⟩ := List.mem_map.mp hwords
    exact piece.isWord
  have hpieces {all : List Piece} (hall : text.lines.map Text.words = all.map Piece.words) :
      List.Forall₂ (fun piece line ↦ Text.words line = piece.words) all text.lines := by
    rw [← List.forall₂_eq_eq_eq, List.forall₂_map_left_iff, List.forall₂_map_right_iff] at hall
    exact hall.flip
  obtain ⟨tail, rfl | rfl, hlines⟩ := htext.exists_map_words hwords
  · exact ⟨pieces, hpieces (by simpa using hlines), rfl, rfl⟩
  · refine ⟨pieces ++ [.blank], hpieces (by simpa [Piece.words] using hlines), ?_, ?_⟩
    · simp [halves, Piece.half?]
    · simp [Piece.unknown?]

/-- A listing whose two lines are the rows of its section is read as it should be shown. -/
theorem exists_isShownBy {lines : List Text}
    (hrows : rowsOf listing.of lines = [listing.names, listing.values]) :
    ∃ counters, (∃ names values, rowsOf listing.of lines = [names, values] ∧
        names.length = values.length ∧
        Counters.correct ⟨listing.of, columns names values⟩ = .ok counters) ∧
      listing.IsShownBy counters := by
  obtain ⟨hlength, counters, hcorrect⟩ := (wellFormedRows_iff listing.of).mp listing.wellFormedRows
  refine ⟨counters, ⟨_, _, hrows, hlength, hcorrect⟩, of_correct hcorrect, fun name raw ↦ ?_⟩
  rw [raw?_of_correct hlength hcorrect, listing.inForce_iff]

/-- Whatever the arrangement of the listings and the layout of the text, reading the text gives the
listings in the order of their first lines, with the overflows taken out of the drops, and one
warning for each line under an unknown header, in their order. -/
theorem reads_back_every_layout {text : Text} (harranged : Arranges listings pieces)
    (htext : Text.LaidOut (pieces.map Piece.words) text) :
    ∃ table, Table.read text =
        ⟨(pieces.filterMap Piece.unknown?).map fun words ↦ ⟨words, text⟩, .ok table⟩ ∧
      List.Forall₂ Listing.IsShownBy (introduced pieces) table ∧
      (introduced pieces).Perm listings := by
  obtain ⟨all, hlines, hhalves, hunknown⟩ := exists_forall₂_lines htext
  have hsections : sectionsOf text.lines = (introduced pieces).map Listing.of := by
    rw [sectionsOf_eq hlines, hhalves]
    exact eraseDups_sections fun before half after ↦ harranged.names_iff
  have hrows (listing : Listing) (hlisting : listing ∈ introduced pieces) :
      rowsOf listing.of text.lines = [listing.names, listing.values] := by
    have hmem := harranged.introduced_perm.mem_iff.mp hlisting
    rw [rowsOf_eq hlines, hhalves, harranged.filter_halves_eq hmem]
    rfl
  obtain ⟨table, hall⟩ := exists_forall₂_iff_forall_mem.mpr fun listing hlisting ↦
    exists_isShownBy (hrows listing hlisting)
  have hread : (Table.read text).table = .ok table := by
    rw [Table.read_eq_ok_iff, hsections, List.forall₂_map_left_iff]
    exact hall.imp fun _ _ ↦ And.left
  have hwarnings : (Table.read text).warnings =
      (pieces.filterMap Piece.unknown?).map fun words ↦ ⟨words, text⟩ := by
    rw [Table.read_of_ok hread, warningsOf, unknownOf_eq hlines, hunknown]
  refine ⟨table, ?_, hall.imp fun _ _ ↦ And.right, harranged.introduced_perm⟩
  rw [← hwarnings, ← hread]

end Arrangement

/-- Drops with overflows beside them. -/
def listenEntries : List (Text × Text) :=
  [(listenDrops, "5".toList), (listenOverflows, "+3".toList)]

theorem exists_isCount_of_mem_listenEntries {name raw : Text}
    (hentry : (name, raw) ∈ listenEntries) : ∃ n, IsCount raw n := by
  have hcounts : ∀ entry ∈ listenEntries, (count? entry.2).isSome = true := by decide
  exact exists_isCount_of_isSome (hcounts _ hentry)

def listenListing : Listing where
  of := .tcp
  entries := listenEntries
  nodup_names := by decide
  isWord := by decide
  drops _ hraw := exists_isCount_of_mem_listenEntries hraw
  overflows _ _ hraw := exists_isCount_of_mem_listenEntries hraw

/-- A counter whose value is no number. -/
def plainListing : Listing where
  of := .ip
  entries := [("A".toList, "x".toList)]
  nodup_names := by decide
  isWord := by decide
  drops raw hraw := by
    have hnames : ∀ entry ∈ [("A".toList, "x".toList)], entry.1 ≠ listenDrops := by decide
    exact absurd rfl (hnames _ hraw)
  overflows raw hlisted _ := absurd hlisted (by decide)

/-- The two listings, taking turns among lines that do not count. -/
def turns : List Piece := [
  .unknown "Foo:".toList ["x".toList] (by decide) (by decide) (by decide),
  .row "Tcp:".toList listenListing .names (by decide),
  .blank,
  .row "IpExt:".toList plainListing .names (by decide),
  .unsupported ["z".toList] (by decide),
  .row "TcpExt:".toList listenListing .values (by decide),
  .row "Ip:".toList plainListing .values (by decide)]

/-- A layout of the turns with a no-break space, both line ends, and none behind the last line. -/
def turnsText : Text :=
  ("Foo: x\r\n Tcp: ListenDrops  ListenOverflows\n\t\nIpExt: A\nMPTcpExt: z\n"
    ++ "TcpExt:\u00a05 +3\r\nIp: x").toList

theorem arranges_turns : Arranges [plainListing, listenListing] turns where
  nodup_sections := by decide
  perm := by
    have hlast := List.perm_append_singleton (plainListing, Half.values) listenListing.halves
    exact (List.Perm.swap (plainListing, Half.names) _ _).trans (hlast.cons _)
  names_first listing hlisting := by
    rcases List.mem_pair.mp hlisting with rfl | rfl
    · exact .cons _ (.cons_cons _ (.cons _ (.cons_cons _ .slnil)))
    · exact .cons_cons _ (.cons _ (.cons_cons _ (.cons _ .slnil)))

theorem laidOut_turnsText : Text.LaidOut (turns.map Piece.words) turnsText := by
  have hwords : turns.map Piece.words = turnsText.lines.map Text.words := by decide
  rw [hwords]
  exact Text.laidOut_map_words turnsText

/-- The turns are read back as two sections, with one warning for the line under the unknown
header. -/
theorem reads_back_turns :
    ∃ first second, Table.read turnsText =
        ⟨[⟨["Foo:".toList, "x".toList], turnsText⟩], .ok [first, second]⟩ ∧
      listenListing.IsShownBy first ∧ plainListing.IsShownBy second := by
  obtain ⟨table, hread, hshown, -⟩ := reads_back_every_layout arranges_turns laidOut_turnsText
  change List.Forall₂ Listing.IsShownBy [listenListing, plainListing] table at hshown
  cases hshown with
  | cons hfirst hrest =>
    cases hrest with
    | cons hsecond hnone =>
      cases hnone
      exact ⟨_, _, hread, hfirst, hsecond⟩

end SocketMetrics.Netstat

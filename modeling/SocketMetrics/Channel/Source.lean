import SocketMetrics.Fault
/-!
Texts that are read again and again from a source that stays open. Every rewinding of the source
brings up its next version, and the last version stays. A version delivers its data in pieces of
any size, and rewinding to it or reading it may fail. Reading goes on from where the source stands
and leaves it at its end, so that only rewinding makes the text whole again.
`Source.content_reread` says that rewinding and reading gives the text of the next version, wherever
the source stood.
-/

set_option autoImplicit false
set_option relaxedAutoImplicit false

namespace SocketMetrics.Channel

/-- What a source holds at one time. -/
structure Version where
  /-- The data, in the pieces in which it is read. -/
  chunks : List (List UInt8)
  /-- The fault of rewinding the source to this version. -/
  rewindFault : Option Fault
  /-- The fault met where the data ends. -/
  readFault : Option Fault
deriving DecidableEq, Repr

namespace Version

/-- Data that is read in one piece and without a fault. -/
def ofBytes (bytes : List UInt8) : Version :=
  ⟨[bytes], none, none⟩

/-- No data. -/
def empty : Version :=
  ofBytes []

/-- A directory opened as if it were a file. -/
def directory : Version :=
  ⟨[], none, some .isADirectory⟩

/-- The text of the version, or the first fault on the way to it: of rewinding, of reading up to
the end, and of data that is not text. -/
def content (version : Version) : Except Fault Text :=
  match version.rewindFault, version.readFault with
  | some fault, _ => throw fault
  | none, some fault => throw fault
  | none, none =>
    match Text.ofUtf8? version.chunks.flatten with
    | some text => pure text
    | none => throw .invalidUtf8

end Version

/-- A source that stays open. -/
structure Source where
  current : Version
  upcoming : List Version
  /-- The pieces of the current version that have not been read yet. -/
  unread : List (List UInt8)
  /-- How often the source was rewound. -/
  rewinds : Nat
deriving DecidableEq, Repr

namespace Source

/-- A source that never changes, opened at its beginning. -/
def constant (version : Version) : Source :=
  ⟨version, [], version.chunks, 0⟩

/-- A source that shows the given versions one after the other, and no data if there are none. -/
def ofVersions (versions : List Version) : Source :=
  { constant .empty with upcoming := versions }

/-- The source after rewinding. It stands at the beginning of its version, or where it stood if
rewinding has failed. -/
def rewind (source : Source) : Source :=
  let version := source.upcoming.headD source.current
  { current := version
    upcoming := source.upcoming.tail
    unread := if version.rewindFault.isNone then version.chunks else source.unread
    rewinds := source.rewinds + 1 }

/-- The text from where the source stands to its end, or the first fault on the way to it: of
reading, and of data that is not text. -/
def rest (source : Source) : Except Fault Text :=
  match source.current.readFault with
  | some fault => throw fault
  | none =>
    match Text.ofUtf8? source.unread.flatten with
    | some text => pure text
    | none => throw .invalidUtf8

/-- What reading a source gives, and the source behind it. -/
structure Reading where
  source : Source
  content : Except Fault Text

/-- Rewinds a source and reads it to its end. Nothing is read if rewinding fails. -/
def reread (source : Source) : Reading :=
  let source := source.rewind
  match source.current.rewindFault with
  | some fault => ⟨source, throw fault⟩
  | none => ⟨{ source with unread := [] }, source.rest⟩

/-- A source is read again as a whole, wherever it stood. -/
theorem content_reread (source : Source) :
    source.reread.content = source.rewind.current.content := by
  cases hrewind : source.rewind.current.rewindFault with
  | some fault => simp only [reread, Version.content, hrewind]
  | none =>
    have hunread : source.rewind.unread = source.rewind.current.chunks :=
      if_pos (by simpa [rewind] using hrewind)
    cases hread : source.rewind.current.readFault with
    | some fault => simp only [reread, Version.content, rest, hrewind, hread]
    | none => simp only [reread, Version.content, rest, hrewind, hread, hunread]

end Source

/-- The two sources of the collector. -/
structure Sources where
  sockstat : Source
  netstat : Source
deriving DecidableEq, Repr

end SocketMetrics.Channel

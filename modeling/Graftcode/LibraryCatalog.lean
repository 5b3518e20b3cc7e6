import Graftcode.OperationName
import Graftcode.Dict
/-!
# LibraryCatalog — which library a call goes to

`LibraryCatalog.py` and `LibraryCatalog.java`: the libraries loaded on a connection, and the one among them that the type
of a later call belongs to.  `Platform` is what the two take from their language and from the machine they run on.
-/
namespace Graftcode
namespace LibraryCatalog

open OperationName (CommandType Item Command)

/-- A member of the SDK's enumeration, by its name. -/
structure ConnectionType where
  name  : Text
  noBar : '|' ∉ name
  deriving DecidableEq

/-- What the catalogue reads of a connection; more than one may have the same type and host name. -/
class IConnectionData (Connection : Type) where
  connectionType : Connection → ConnectionType
  hostname       : Connection → Option Text

open IConnectionData (connectionType hostname)

structure Library where
  name    : Text
  version : Text

/-- ASCII throughout. -/
def Ascii (s : Text) : Prop := ∀ c ∈ s, c.toNat < 128

/-- Lower-casing and the length of a string.  A string that is ASCII in lower case has a character for each of its own:
the only other character with an ASCII letter in lower case is the Kelvin sign. -/
structure Casing where
  lower       : Text → Text
  size        : Text → Nat
  lower_ascii : ∀ {s}, Ascii s → lower s = s.map Char.toLower
  size_lower  : ∀ {s}, Ascii (lower s) → size s = (lower s).length

/-- `noHost` is the text of a host name that is not there, `fileName` the last part of a path, `readVersion` what the file
or the package says, `order` the order in which a map gives its values. -/
structure Platform extends Casing where
  names       : OperationName.Port
  noHost      : Text
  fileName    : Text → Text
  readVersion : Text → Text → Text
  order       : List Library → List Library
  order_perm  : ∀ libraries, (order libraries).Perm libraries

/-- `os.path.basename` on a POSIX system. -/
def posixBasename (path : Text) : Text := path.rtakeWhile (· != '/')

def python (casing : Casing) (readVersion : Text → Text → Text) : Platform where
  toCasing := casing
  names := OperationName.python
  noHost := "None".toList
  fileName path := posixBasename (path.rdropWhile fun c => c == '/' || c == '\\')
  readVersion := readVersion
  order := id
  order_perm := List.Perm.refl

/-- A `ConcurrentHashMap` promises no order. -/
def java (casing : Casing) (readVersion : Text → Text → Text) (order : List Library → List Library)
    (order_perm : ∀ libraries, (order libraries).Perm libraries) : Platform where
  toCasing := casing
  names := OperationName.java
  noHost := "null".toList
  fileName path := posixBasename (path.rdropWhile (· == '/'))
  readVersion := readVersion
  order := order
  order_perm := order_perm

structure Catalog where
  librariesByConnection : Dict Text (Dict Text Library)
  versionByPath         : Dict Text Text

def Catalog.empty : Catalog := ⟨Dict.empty, Dict.empty⟩

def asText : Item → Option Text
  | .text s                       => some s
  | .command .value (.text s :: _) => some s
  | _                             => none

mutual

/-- The commands of a type in a tree, from the root down. -/
def findCommands (commandType : CommandType) : Item → List Command
  | .command t payload => (if t = commandType then [⟨t, payload⟩] else []) ++ findAllCommands commandType payload
  | _                  => []

def findAllCommands (commandType : CommandType) : List Item → List Command
  | []           => []
  | item :: rest => findCommands commandType item ++ findAllCommands commandType rest

end

def commandsOf (commandType : CommandType) (command : Command) : List Command :=
  findCommands commandType (.command command.commandType command.payload)

namespace Platform

variable (platform : Platform) {Connection : Type} [IConnectionData Connection]

/-- The host name in a string. -/
def hostText (connection : Connection) : Text := (hostname connection).getD platform.noHost

def connectionKey (connection : Connection) : Text :=
  (connectionType connection).name ++ '|' :: platform.hostText connection

def resolveLibraryPath (command : Command) : Option Text :=
  ((command.payload.reverse.map asText).find? fun path => !platform.names.isBlank path).join

def fileNameWithoutExtension (path : Text) : Text :=
  let name := platform.fileName path
  let stem := (name.rdropWhile (· != '.')).dropLast
  if stem.isEmpty then name else stem

def recordLoad (load : Command) (connection : Connection) (catalog : Catalog) : Catalog :=
  match platform.resolveLibraryPath load with
  | none      => catalog
  | some path =>
    let name := platform.fileNameWithoutExtension path
    if platform.names.isBlank (some name) then catalog
    else
      let (version, versionByPath) := match catalog.versionByPath.get? path with
        | some version => (version, catalog.versionByPath)
        | none         =>
          (platform.readVersion path name, catalog.versionByPath.put path (platform.readVersion path name))
      let libraries := (catalog.librariesByConnection.get? (platform.connectionKey connection)).getD Dict.empty
      { librariesByConnection := catalog.librariesByConnection.put (platform.connectionKey connection)
          (libraries.put (platform.lower name) ⟨name, version⟩)
        versionByPath }

def record (command : Command) (connection : Connection) (catalog : Catalog) : Catalog :=
  (commandsOf .loadLibrary command).foldl (fun catalog load => platform.recordLoad load connection catalog) catalog

def isTypeOfLibrary (typeName libraryName : Text) : Bool :=
  platform.lower typeName == platform.lower libraryName ||
    (platform.lower libraryName ++ ['.']).isPrefixOf (platform.lower typeName)

def rootNamespace (typeName : Text) : Text := typeName.takeWhile (· != '.')

/-- The loop over the libraries of a connection: the first of the longest names. -/
def bestMatch (typeName : Text) (libraries : List Library) : Option Text :=
  libraries.foldl (fun best library =>
    if !platform.isTypeOfLibrary typeName library.name then best
    else match best with
      | none      => some library.name
      | some name => if platform.size library.name > platform.size name then some library.name else some name) none

/-- The name that a `LoadLibrary` itself gives. -/
def loadedName (load : Command) : Option Text :=
  match platform.resolveLibraryPath load with
  | none      => none
  | some path =>
    let name := platform.fileNameWithoutExtension path
    if platform.names.isBlank (some name) then none else some name

def resolveLibraryName (catalog : Catalog) (command : Command) (connection : Connection) : Option Text :=
  match (commandsOf .loadLibrary command).findSome? platform.loadedName with
  | some name => some name
  | none      =>
    match platform.names.resolveTargetTypeName command with
    | none          => none
    | some typeName =>
      if platform.names.isBlank (some typeName) then none
      else
        match catalog.librariesByConnection.get? (platform.connectionKey connection) with
        | none           => some (rootNamespace typeName)
        | some libraries =>
          some ((platform.bestMatch typeName (platform.order libraries.values)).getD (rootNamespace typeName))

def lookupVersion (catalog : Catalog) (connection : Connection) (library : Text) : Option Text :=
  match catalog.librariesByConnection.get? (platform.connectionKey connection) with
  | none           => none
  | some libraries => (libraries.get? (platform.lower library)).map Library.version

/-- The text for a library, its version and the channel. -/
def describe (runtimeName channel : Text) (library version : Option Text) : Text :=
  if platform.names.isBlank library then runtimeName ++ ' ' :: channel
  else if platform.names.isBlank version then library.getD [] ++ ' ' :: channel
  else library.getD [] ++ ' ' :: version.getD [] ++ ' ' :: channel

def channel (connection : Connection) : Text :=
  platform.lower ((connectionType connection).name.filter (· != '_'))

def describeTarget (catalog : Catalog) (runtimeName : Text) (command : Command) (connection : Connection) : Text :=
  let library := platform.resolveLibraryName catalog command connection
  platform.describe runtimeName (platform.channel connection) library
    (library.bind (platform.lookupVersion catalog connection))

/-! ## What was recorded -/

/-- The library that a `LoadLibrary` puts on record, if its path gives a name. -/
def libraryOf (load : Command) : Option Library :=
  match platform.resolveLibraryPath load with
  | none      => none
  | some path =>
    let name := platform.fileNameWithoutExtension path
    if platform.names.isBlank (some name) then none else some ⟨name, platform.readVersion path name⟩

end Platform

/-- A library put on record for a connection. -/
structure Record (Connection : Type) where
  connection : Connection
  library    : Library

namespace Platform

variable (platform : Platform) {Connection : Type} [IConnectionData Connection]

/-- The connections have one type, and their host names are the same in a string. -/
def Alike (connection connection' : Connection) : Prop :=
  connectionType connection = connectionType connection' ∧ platform.hostText connection = platform.hostText connection'

instance (connection connection' : Connection) : Decidable (platform.Alike connection connection') := by
  unfold Alike
  infer_instance

def recordsOf (history : List (Connection × Command)) : List (Record Connection) :=
  history.flatMap fun event =>
    ((commandsOf .loadLibrary event.2).filterMap platform.libraryOf).map fun library => ⟨event.1, library⟩

/-- The catalogue after the commands of a history have been recorded. -/
def recordAll (history : List (Connection × Command)) : Catalog :=
  history.foldl (fun catalog event => platform.record event.2 event.1 catalog) Catalog.empty

/-- The records of a library on connections like this one, its name in any case. -/
def named (records : List (Record Connection)) (connection : Connection) (key : Text) : List (Record Connection) :=
  records.filter fun record =>
    decide (platform.Alike record.connection connection ∧ platform.lower record.library.name = key)

def latest (records : List (Record Connection)) (connection : Connection) (key : Text) : Option Library :=
  (platform.named records connection key).getLast?.map Record.library

theorem latest_append (before after : List (Record Connection)) (connection : Connection) (key : Text) :
    platform.latest (before ++ after) connection key =
      (platform.latest after connection key).or (platform.latest before connection key) := by
  rw [latest, named, List.filter_append, List.getLast?_append, latest, latest, named, named]
  cases (List.filter _ after).getLast? <;> rfl

theorem latest_cons (record : Record Connection) (records : List (Record Connection)) (connection : Connection)
    (key : Text) :
    platform.latest (record :: records) connection key = (platform.latest records connection key).or
      (if platform.Alike record.connection connection ∧ platform.lower record.library.name = key then some record.library
        else none) := by
  have happend := platform.latest_append [record] records connection key
  rw [List.singleton_append] at happend
  rw [happend, latest, latest, named, named, List.filter_singleton]
  by_cases h : platform.Alike record.connection connection ∧ platform.lower record.library.name = key
  · simp [h]
  · simp [h]

theorem lower_of_latest {records : List (Record Connection)} {connection : Connection} {key : Text} {library : Library}
    (h : platform.latest records connection key = some library) : platform.lower library.name = key := by
  obtain ⟨record, hlast, rfl⟩ := Option.map_eq_some_iff.1 h
  have hmem := (List.mem_filter.1 (List.mem_of_getLast? hlast)).2
  exact (of_decide_eq_true hmem).2

/-! ## The catalogue holds the records -/

/-- The library that the catalogue has under a key of a connection. -/
def library? (catalog : Catalog) (connection : Connection) (key : Text) : Option Library :=
  (catalog.librariesByConnection.get? (platform.connectionKey connection)).bind fun libraries => libraries.get? key

/-- A version kept for a path is the one that its file says. -/
def Sound (catalog : Catalog) : Prop :=
  ∀ path version, catalog.versionByPath.get? path = some version →
    version = platform.readVersion path (platform.fileNameWithoutExtension path)

end Platform

namespace Platform

variable (platform : Platform) {Connection : Type} [IConnectionData Connection]

theorem connectionKey_inj {connection connection' : Connection} :
    platform.connectionKey connection = platform.connectionKey connection' ↔ platform.Alike connection connection' := by
  unfold connectionKey Alike
  obtain ⟨name, hname⟩ := connectionType connection
  obtain ⟨name', hname'⟩ := connectionType connection'
  have htake : ∀ {n h : Text}, '|' ∉ n → (n ++ '|' :: h).takeWhile (· != '|') = n := by
    intro n h hn
    have hpos : ∀ c ∈ n, (c != '|') = true := by
      intro c hc
      rw [bne_iff_ne]
      rintro rfl
      exact hn hc
    rw [List.takeWhile_append_of_pos hpos]
    simp
  constructor
  · intro h
    have hnames := congrArg (List.takeWhile (· != '|')) h
    rw [htake hname, htake hname'] at hnames
    subst hnames
    exact ⟨rfl, by simpa using h⟩
  · rintro ⟨htype, hhost⟩
    cases htype
    rw [hhost]

theorem library?_put (catalog : Catalog) (connection c : Connection) (key k : Text) (library : Library)
    (versionByPath : Dict Text Text) :
    platform.library? ⟨catalog.librariesByConnection.put (platform.connectionKey connection)
      (((catalog.librariesByConnection.get? (platform.connectionKey connection)).getD Dict.empty).put key library),
        versionByPath⟩ c k =
      if platform.Alike connection c ∧ key = k then some library else platform.library? catalog c k := by
  rw [library?, library?, Dict.get?_put]
  by_cases hc : platform.Alike connection c
  · have hconnection := platform.connectionKey_inj.2 hc
    rw [if_pos hconnection.symm, Option.bind_some, Dict.get?_put, hconnection]
    by_cases hk : k = key
    · simp [hk, hc]
    · rw [if_neg hk, if_neg fun h => hk h.2.symm]
      cases catalog.librariesByConnection.get? (platform.connectionKey c) <;> rfl
  · rw [if_neg fun h => hc (platform.connectionKey_inj.1 h.symm), if_neg fun h => hc h.1]

/-- What recording a load does: the library it puts on record stands under its name on the connection, and nothing else
changes. -/
theorem recordLoad_spec {catalog : Catalog} (h : platform.Sound catalog) (load : Command) (connection : Connection) :
    platform.Sound (platform.recordLoad load connection catalog) ∧
    ∀ (c : Connection) key, platform.library? (platform.recordLoad load connection catalog) c key =
      match platform.libraryOf load with
      | none         => platform.library? catalog c key
      | some library =>
        if platform.Alike connection c ∧ platform.lower library.name = key then some library
        else platform.library? catalog c key := by
  unfold recordLoad libraryOf
  cases platform.resolveLibraryPath load with
  | none => exact ⟨h, fun c key => rfl⟩
  | some path =>
    dsimp only
    by_cases hblank : platform.names.isBlank (some (platform.fileNameWithoutExtension path)) = true
    · simp only [if_pos hblank, implies_true, and_true]
      exact h
    · simp only [if_neg hblank]
      cases hget : catalog.versionByPath.get? path with
      | some version =>
        obtain rfl := h path version hget
        exact ⟨h, fun c key => platform.library?_put ..⟩
      | none =>
        refine ⟨fun path' version' hget' => ?_, fun c key => platform.library?_put ..⟩
        rw [Dict.get?_put] at hget'
        by_cases hp : path' = path
        · rw [if_pos hp] at hget'
          rw [hp]
          exact (Option.some.inj hget').symm
        · rw [if_neg hp] at hget'
          exact h path' version' hget'

/-- The records that a list of loads puts on a connection. -/
def recordsOfLoads (loads : List Command) (connection : Connection) : List (Record Connection) :=
  (loads.filterMap platform.libraryOf).map fun library => ⟨connection, library⟩

theorem recordLoads_spec (connection : Connection) : ∀ (loads : List Command) (catalog : Catalog),
    platform.Sound catalog →
      platform.Sound (loads.foldl (fun catalog load => platform.recordLoad load connection catalog) catalog) ∧
      ∀ (c : Connection) key,
        platform.library? (loads.foldl (fun catalog load => platform.recordLoad load connection catalog) catalog) c key =
          (platform.latest (platform.recordsOfLoads loads connection) c key).or (platform.library? catalog c key)
  | [], catalog, h => ⟨h, fun c key => rfl⟩
  | load :: loads, catalog, h => by
    obtain ⟨hsound, hstep⟩ := platform.recordLoad_spec h load connection
    obtain ⟨hsound', hrest⟩ := recordLoads_spec connection loads _ hsound
    refine ⟨hsound', fun c key => ?_⟩
    rw [List.foldl_cons, hrest, hstep, recordsOfLoads, recordsOfLoads]
    cases hload : platform.libraryOf load with
    | none => rw [List.filterMap_cons_none hload]
    | some library =>
      rw [List.filterMap_cons_some hload, List.map_cons, latest_cons, Option.or_assoc]
      by_cases hc : platform.Alike connection c ∧ platform.lower library.name = key
      · simp [hc]
      · dsimp only
        rw [if_neg hc, if_neg hc, Option.none_or]

omit [IConnectionData Connection] in
theorem recordsOf_append (before after : List (Connection × Command)) :
    platform.recordsOf (before ++ after) = platform.recordsOf before ++ platform.recordsOf after :=
  List.flatMap_append

/-- **The catalogue holds the latest record** of each library on each connection. -/
theorem recordAll_spec (history : List (Connection × Command)) :
    platform.Sound (platform.recordAll history) ∧ ∀ (connection : Connection) key,
      platform.library? (platform.recordAll history) connection key =
        platform.latest (platform.recordsOf history) connection key := by
  induction history using List.reverseRecOn with
  | nil =>
    refine ⟨fun path version h => ?_, fun connection key => rfl⟩
    cases h
  | append_singleton history event ih =>
    obtain ⟨hsound, hlibrary⟩ := ih
    obtain ⟨hsound', hstep⟩ := platform.recordLoads_spec event.1 (commandsOf .loadLibrary event.2) _ hsound
    rw [recordAll, List.foldl_append]
    refine ⟨hsound', fun connection key => ?_⟩
    rw [recordsOf_append, latest_append, ← hlibrary]
    have hone : platform.recordsOf [event] = platform.recordsOfLoads (commandsOf .loadLibrary event.2) event.1 := by
      simp [recordsOf, recordsOfLoads]
    rw [hone]
    exact hstep connection key

/-! ## The library of a type -/

/-- The library's name is the type's or is followed in it by a dot, in any case. -/
def BelongsTo (typeName libraryName : Text) : Prop :=
  platform.lower typeName = platform.lower libraryName ∨
    ∃ rest, platform.lower typeName = platform.lower libraryName ++ '.' :: rest

/-- The longest library that the type belongs to, with its version, or the first part of the type's name. -/
inductive Attributed (latest : Text → Option Library) (typeName : Text) : Text → Option Text → Prop where
  | recorded {key : Text} {library : Library} : latest key = some library → platform.BelongsTo typeName library.name →
    (∀ key' library', latest key' = some library' → platform.BelongsTo typeName library'.name →
      platform.size library'.name ≤ platform.size library.name) →
    Attributed latest typeName library.name (some library.version)
  | root : (∀ key library, latest key = some library → ¬ platform.BelongsTo typeName library.name) →
    Attributed latest typeName (rootNamespace typeName) none

/-- The command is about a type whose name is not blank. -/
def Targets (command : Command) (typeName : Text) : Prop :=
  platform.names.resolveTargetTypeName command = some typeName ∧ platform.names.isBlank (some typeName) = false

variable {platform}

theorem isTypeOfLibrary_iff {typeName libraryName : Text} :
    platform.isTypeOfLibrary typeName libraryName = true ↔ platform.BelongsTo typeName libraryName := by
  rw [isTypeOfLibrary, Bool.or_eq_true, beq_iff_eq, List.isPrefixOf_iff_prefix, BelongsTo]
  constructor
  · rintro (h | ⟨rest, h⟩)
    · exact Or.inl h
    · exact Or.inr ⟨rest, by rw [← h, List.append_assoc, List.singleton_append]⟩
  · rintro (h | ⟨rest, h⟩)
    · exact Or.inl h
    · exact Or.inr ⟨rest, by rw [h, List.append_assoc, List.singleton_append]⟩

theorem ascii_toLower {s : Text} (h : Ascii s) : Ascii (s.map Char.toLower) := by
  intro c hc
  obtain ⟨d, hd, rfl⟩ := List.mem_map.1 hc
  have hlt := h d hd
  have hall : ∀ n < 128, (Char.ofNat n).toLower.toNat < 128 := by decide
  have hd' := hall d.toNat hlt
  rwa [Char.ofNat_toNat] at hd'

theorem BelongsTo.lower_isPrefix {typeName libraryName : Text} (h : platform.BelongsTo typeName libraryName) :
    platform.lower libraryName <+: platform.lower typeName := by
  rcases h with h | ⟨rest, h⟩
  · exact ⟨[], by rw [List.append_nil, h]⟩
  · exact ⟨'.' :: rest, h.symm⟩

/-- The length of such a library's name is that of its lower case. -/
theorem BelongsTo.size_eq {typeName libraryName : Text} (h : platform.BelongsTo typeName libraryName)
    (hascii : Ascii typeName) : platform.size libraryName = (platform.lower libraryName).length := by
  apply platform.size_lower
  intro c hc
  have hmem := h.lower_isPrefix.subset hc
  rw [platform.lower_ascii hascii] at hmem
  exact ascii_toLower hascii c hmem

/-- Two libraries of a type with names of one length have one name. -/
theorem BelongsTo.lower_eq {typeName name name' : Text} (h : platform.BelongsTo typeName name)
    (h' : platform.BelongsTo typeName name') (hascii : Ascii typeName) (hsize : platform.size name = platform.size name') :
    platform.lower name = platform.lower name' := by
  rw [h.size_eq hascii, h'.size_eq hascii] at hsize
  exact (List.prefix_of_prefix_length_le h.lower_isPrefix h'.lower_isPrefix hsize.le).eq_of_length hsize

/-- A longest of the libraries that the type belongs to. -/
def Longest (platform : Platform) (typeName : Text) (libraries : List Library) (library : Library) : Prop :=
  library ∈ libraries ∧ platform.BelongsTo typeName library.name ∧
    ∀ library' ∈ libraries, platform.BelongsTo typeName library'.name →
      platform.size library'.name ≤ platform.size library.name

theorem longest_last {typeName : Text} {libraries : List Library} {last : Library}
    (h : platform.BelongsTo typeName last.name) (hle : ∀ library ∈ libraries, platform.BelongsTo typeName library.name →
      platform.size library.name ≤ platform.size last.name) : Longest platform typeName (libraries ++ [last]) last := by
  refine ⟨by simp, h, List.forall_mem_append.2 ⟨hle, ?_⟩⟩
  rw [List.forall_mem_singleton]
  exact fun _ => le_rfl

theorem Longest.concat {typeName : Text} {libraries : List Library} {library last : Library}
    (h : Longest platform typeName libraries library) (hle : platform.BelongsTo typeName last.name →
      platform.size last.name ≤ platform.size library.name) : Longest platform typeName (libraries ++ [last]) library := by
  obtain ⟨hmem, hbelongs, hmax⟩ := h
  refine ⟨List.mem_append_left _ hmem, hbelongs, List.forall_mem_append.2 ⟨hmax, ?_⟩⟩
  rwa [List.forall_mem_singleton]

theorem bestMatch_concat (typeName : Text) (libraries : List Library) (last : Library) :
    platform.bestMatch typeName (libraries ++ [last]) =
      if !platform.isTypeOfLibrary typeName last.name then platform.bestMatch typeName libraries
      else match platform.bestMatch typeName libraries with
        | none      => some last.name
        | some name => if platform.size last.name > platform.size name then some last.name else some name := by
  rw [bestMatch, List.foldl_append]
  rfl

/-- The loop finds a longest library of the type, if there is one. -/
theorem bestMatch_spec (typeName : Text) (libraries : List Library) :
    (platform.bestMatch typeName libraries = none ∧ ∀ library ∈ libraries, ¬ platform.BelongsTo typeName library.name) ∨
    ∃ library, platform.bestMatch typeName libraries = some library.name ∧ Longest platform typeName libraries library := by
  induction libraries using List.reverseRecOn with
  | nil => exact Or.inl ⟨rfl, fun library h => by cases h⟩
  | append_singleton libraries last ih =>
    rw [bestMatch_concat]
    by_cases hlast : platform.isTypeOfLibrary typeName last.name = true
    · have hbelongs := isTypeOfLibrary_iff.1 hlast
      right
      rw [hlast, Bool.not_true, if_neg Bool.false_ne_true]
      rcases ih with ⟨hnone, hall⟩ | ⟨library, hsome, hlongest⟩
      · rw [hnone]
        exact ⟨last, rfl, longest_last hbelongs fun library hmem hb => absurd hb (hall library hmem)⟩
      · rw [hsome]
        dsimp only
        by_cases hgt : platform.size last.name > platform.size library.name
        · rw [if_pos hgt]
          exact ⟨last, rfl, longest_last hbelongs fun library' hmem hb => le_trans (hlongest.2.2 library' hmem hb) hgt.le⟩
        · rw [if_neg hgt]
          exact ⟨library, rfl, hlongest.concat fun _ => Nat.not_lt.1 hgt⟩
    · have hnot : ¬ platform.BelongsTo typeName last.name := fun h => hlast (isTypeOfLibrary_iff.2 h)
      rw [Bool.not_eq_true] at hlast
      rw [hlast, Bool.not_false, if_pos rfl]
      rcases ih with ⟨hnone, hall⟩ | ⟨library, hsome, hlongest⟩
      · left
        refine ⟨hnone, List.forall_mem_append.2 ⟨hall, ?_⟩⟩
        rwa [List.forall_mem_singleton]
      · right
        exact ⟨library, hsome, hlongest.concat fun h => absurd h hnot⟩

theorem lookupVersion_eq (catalog : Catalog) (connection : Connection) (library : Text) :
    platform.lookupVersion catalog connection library =
      (platform.library? catalog connection (platform.lower library)).map Library.version := by
  rw [lookupVersion, library?]
  cases catalog.librariesByConnection.get? (platform.connectionKey connection) <;> rfl

/-- A library whose name is the first part of the type's owns the type. -/
theorem belongsTo_root {typeName libraryName : Text} (hascii : Ascii typeName)
    (h : platform.lower libraryName = platform.lower (rootNamespace typeName)) :
    platform.BelongsTo typeName libraryName := by
  have hroot : Ascii (rootNamespace typeName) := fun c hc => hascii c (List.takeWhile_prefix _ |>.subset hc)
  have hsplit : typeName = rootNamespace typeName ++ typeName.dropWhile (· != '.') := List.takeWhile_append_dropWhile.symm
  rw [BelongsTo, h, platform.lower_ascii hascii, platform.lower_ascii hroot]
  cases hrest : typeName.dropWhile (· != '.') with
  | nil =>
    rw [hrest, List.append_nil] at hsplit
    exact Or.inl (congrArg _ hsplit)
  | cons c rest =>
    have hdot : c = '.' := by
      have hhead : (typeName.dropWhile (· != '.')).head? = some c := by rw [hrest]; rfl
      simpa using Trimming.head?_dropWhile hhead
    right
    refine ⟨rest.map Char.toLower, ?_⟩
    conv_lhs => rw [hsplit, hrest, hdot]
    rw [List.map_append, List.map_cons]
    rfl

/-- A command without loads is asked for its type alone. -/
theorem resolveLibraryName_of_targets (catalog : Catalog) {command : Command} (connection : Connection) {typeName : Text}
    (hload : commandsOf .loadLibrary command = []) (htarget : platform.Targets command typeName) :
    platform.resolveLibraryName catalog command connection =
      match catalog.librariesByConnection.get? (platform.connectionKey connection) with
      | none           => some (rootNamespace typeName)
      | some libraries =>
        some ((platform.bestMatch typeName (platform.order libraries.values)).getD (rootNamespace typeName)) := by
  rw [resolveLibraryName, hload, List.findSome?_nil]
  dsimp only
  rw [htarget.1]
  dsimp only
  rw [htarget.2, if_neg Bool.false_ne_true]

/-- No library of the type, and none under the first part of its name either. -/
theorem lookupVersion_root {catalog : Catalog} {latest : Text → Option Library} {connection : Connection} {typeName : Text}
    (hlatest : ∀ key, platform.library? catalog connection key = latest key)
    (hkey : ∀ key library, latest key = some library → platform.lower library.name = key) (hascii : Ascii typeName)
    (hnone : ∀ key library, latest key = some library → ¬ platform.BelongsTo typeName library.name) :
    platform.lookupVersion catalog connection (rootNamespace typeName) = none := by
  rw [lookupVersion_eq, hlatest]
  cases hfound : latest (platform.lower (rootNamespace typeName)) with
  | none => rfl
  | some library => exact absurd (belongsTo_root hascii (hkey _ library hfound)) (hnone _ library hfound)

/-- The library and the version are those of the records. -/
theorem resolveLibraryName_spec {catalog : Catalog} {latest : Text → Option Library} {command : Command}
    {connection : Connection} {typeName : Text} (hlatest : ∀ key, platform.library? catalog connection key = latest key)
    (hkey : ∀ key library, latest key = some library → platform.lower library.name = key)
    (hload : commandsOf .loadLibrary command = []) (htarget : platform.Targets command typeName) (hascii : Ascii typeName) :
    ∃ library version, platform.Attributed latest typeName library version ∧
      platform.resolveLibraryName catalog command connection = some library ∧
      platform.lookupVersion catalog connection library = version := by
  have hresolve := resolveLibraryName_of_targets catalog connection hload htarget
  cases hlibraries : catalog.librariesByConnection.get? (platform.connectionKey connection) with
  | none =>
    rw [hlibraries] at hresolve
    have hnone : ∀ key library, latest key = some library → ¬ platform.BelongsTo typeName library.name := by
      intro key library hfound
      rw [← hlatest, library?, hlibraries] at hfound
      cases hfound
    exact ⟨_, _, Attributed.root hnone, hresolve, lookupVersion_root hlatest hkey hascii hnone⟩
  | some libraries =>
    rw [hlibraries] at hresolve
    have hmem : ∀ library, library ∈ platform.order libraries.values ↔ ∃ key, latest key = some library := by
      intro library
      rw [(platform.order_perm _).mem_iff, Dict.mem_values_iff]
      simp only [← hlatest, library?, hlibraries, Option.bind_some]
    dsimp only at hresolve
    rcases platform.bestMatch_spec typeName (platform.order libraries.values) with
      ⟨hbest, hall⟩ | ⟨library, hbest, hin, hb, hmax⟩
    · rw [hbest] at hresolve
      have hnone : ∀ key library, latest key = some library → ¬ platform.BelongsTo typeName library.name :=
        fun key library hfound => hall library ((hmem library).2 ⟨key, hfound⟩)
      exact ⟨_, _, Attributed.root hnone, hresolve, lookupVersion_root hlatest hkey hascii hnone⟩
    · rw [hbest] at hresolve
      obtain ⟨key, hfound⟩ := (hmem library).1 hin
      refine ⟨library.name, some library.version, Attributed.recorded hfound hb fun key' library' hfound' hb' =>
        hmax library' ((hmem library').2 ⟨key', hfound'⟩) hb', hresolve, ?_⟩
      rw [lookupVersion_eq, hlatest, hkey key library hfound, hfound]
      rfl

/-- A type has one library and one version by the records. -/
theorem Attributed.unique {latest : Text → Option Library} {typeName library library' : Text}
    {version version' : Option Text}
    (hkey : ∀ key library, latest key = some library → platform.lower library.name = key) (hascii : Ascii typeName)
    (h : platform.Attributed latest typeName library version) (h' : platform.Attributed latest typeName library' version') :
    library' = library ∧ version' = version := by
  cases h with
  | root hnone =>
    cases h' with
    | root _ => exact ⟨rfl, rfl⟩
    | recorded hfound' hb' _ => exact absurd hb' (hnone _ _ hfound')
  | recorded hfound hb hmax =>
    cases h' with
    | root hnone => exact absurd hb (hnone _ _ hfound)
    | recorded hfound' hb' hmax' =>
      have hsize := le_antisymm (hmax _ _ hfound' hb') (hmax' _ _ hfound hb)
      have hlower := hb'.lower_eq hb hascii hsize
      rw [hkey _ _ hfound, hkey _ _ hfound'] at hlower
      subst hlower
      rw [hfound] at hfound'
      cases hfound'
      exact ⟨rfl, rfl⟩

end Platform

open Platform

/-- **The library of a call** is the longest that the records of the connections like its own have for the type, with the
version of the latest record of that name, or else the first part of the type's name.  Nothing else in the history has a
part in it. -/
theorem attribution {Connection : Type} [IConnectionData Connection] (platform : Platform)
    (history : List (Connection × Command)) (connection : Connection) (command : Command) (typeName : Text)
    (hload : commandsOf .loadLibrary command = []) (htarget : platform.Targets command typeName)
    (hascii : Ascii typeName) :
    ∃ library version,
      platform.Attributed (platform.latest (platform.recordsOf history) connection) typeName library version ∧
      (∀ library' version',
        platform.Attributed (platform.latest (platform.recordsOf history) connection) typeName library' version' →
          library' = library ∧ version' = version) ∧
      (∀ runtimeName, platform.describeTarget (platform.recordAll history) runtimeName command connection =
        platform.describe runtimeName (platform.channel connection) (some library) version) ∧
      ∀ history', (∀ key, platform.named (platform.recordsOf history') connection key =
          platform.named (platform.recordsOf history) connection key) →
        platform.resolveLibraryName (platform.recordAll history') command connection = some library ∧
          platform.lookupVersion (platform.recordAll history') connection library = version := by
  have hkey (history : List (Connection × Command)) (key : Text) (library : Library)
      (h : platform.latest (platform.recordsOf history) connection key = some library) :
      platform.lower library.name = key := lower_of_latest platform h
  have hspec := fun history => resolveLibraryName_spec ((platform.recordAll_spec history).2 connection) (hkey history) hload
    htarget hascii
  obtain ⟨library, version, hattributed, hresolve, hversion⟩ := hspec history
  refine ⟨library, version, hattributed, fun library' version' h' => hattributed.unique (hkey history) hascii h', ?_, ?_⟩
  · intro runtimeName
    rw [describeTarget, hresolve, Option.bind_some, hversion]
  · intro history' hsame
    have hlatest : platform.latest (platform.recordsOf history') connection =
        platform.latest (platform.recordsOf history) connection := by
      funext key
      rw [latest, hsame key, latest]
    obtain ⟨library', version', hattributed', hresolve', hversion'⟩ := hspec history'
    rw [hlatest] at hattributed'
    obtain ⟨rfl, rfl⟩ := hattributed.unique (hkey history) hascii hattributed'
    exact ⟨hresolve', hversion'⟩

/-! ## Two connections to one host -/

/-- The casing of strings of ASCII. -/
def asciiCasing : Casing where
  lower s := s.map Char.toLower
  size := List.length
  lower_ascii _ := rfl
  size_lower _ := (List.length_map _).symm

def onPython : Platform := python asciiCasing fun _ _ => "1.0".toList

/-- The map gives its values from the last one back. -/
def onJava : Platform := java asciiCasing (fun _ _ => "1.0".toList) List.reverse List.reverse_perm

structure Endpoint where
  hostname : Text
  port     : Nat
  deriving DecidableEq

instance : IConnectionData Endpoint where
  connectionType _ := ⟨"WebSocket".toList, by decide⟩
  hostname endpoint := some endpoint.hostname

def shop : Endpoint := ⟨"shop".toList, 80⟩

def otherPort : Endpoint := ⟨"shop".toList, 8080⟩

def shopLoads : List (Endpoint × Command) :=
  [(shop, ⟨.loadLibrary, [.text "lib/A.B.py".toList]⟩), (otherPort, ⟨.loadLibrary, [.text "lib/A.BC.py".toList]⟩)]

def newBasket : Command := ⟨.createClassInstance, [.command .getType [.text "a.b.Basket".toList]]⟩

theorem ascii_basket : Ascii "a.b.Basket".toList := by
  have hascii : ("a.b.Basket".toList.all fun c => decide (c.toNat < 128)) = true := by decide
  exact fun c hc => of_decide_eq_true (List.all_eq_true.1 hascii c hc)

/-- An `a.b.Basket` is made on the other port, in Python and in Java. -/
theorem attribution_basket :
    (∃ library version, onPython.Attributed (onPython.latest (onPython.recordsOf shopLoads) otherPort)
        "a.b.Basket".toList library version ∧
      onPython.describe "Python".toList "websocket".toList (some library) version = "A.B 1.0 websocket".toList) ∧
      ∃ library version, onJava.Attributed (onJava.latest (onJava.recordsOf shopLoads) otherPort) "a.b.Basket".toList
          library version ∧
        onJava.describe "Jvm".toList "websocket".toList (some library) version = "A.B 1.0 websocket".toList := by
  constructor
  · obtain ⟨library, version, hattributed, -, hdescribe, -⟩ :=
      attribution onPython shopLoads otherPort newBasket _ rfl ⟨rfl, by decide⟩ ascii_basket
    refine ⟨library, version, hattributed, (hdescribe "Python".toList).symm.trans ?_⟩
    decide
  · obtain ⟨library, version, hattributed, -, hdescribe, -⟩ :=
      attribution onJava shopLoads otherPort newBasket _ rfl ⟨rfl, by decide⟩ ascii_basket
    refine ⟨library, version, hattributed, (hdescribe "Jvm".toList).symm.trans ?_⟩
    decide

/-- A connection without a record of its own has the library that was loaded on the other port. -/
theorem not_perConnection : ¬ ∀ history : List (Endpoint × Command),
    (∀ record ∈ onPython.recordsOf history, record.connection ≠ otherPort) →
      onPython.resolveLibraryName (onPython.recordAll history) newBasket otherPort =
        some (rootNamespace "a.b.Basket".toList) := by
  intro h
  have hroot := h [(shop, ⟨.loadLibrary, [.text "lib/A.B.py".toList]⟩)] (by decide)
  revert hroot
  decide

end LibraryCatalog
end Graftcode

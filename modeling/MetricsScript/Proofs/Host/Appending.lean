import MetricsScript.Host.Files

/-!
# Appending to a file

Bytes can be appended where a path leads to a file or to a free place in a directory, if
nothing forbids it and the disk has room for them.  The path leads to the same place afterwards
and finds the old bytes there with the new ones behind them, and what stands at any other place
is what stood there before.

Anything else is an obstacle, which is reported and may leave a part of the bytes in the file,
or a device, which changes no file.
-/

namespace MetricsScript
namespace Host
namespace Files

variable
  {files after : Files} {location other start target : Location} {node : Node} {path : String}
  {old bytes : List UInt8} {parsed : Path} {device : Device} {cause : SystemError}
  {count? : Option Nat}

/-! ## Putting something at a location -/

theorem node?_put_self (h : location ≠ []) :
    (files.put location node).node? location = some node := by
  simp [node?, put, h]

theorem lookup_filter_ne {nodes : List (Location × Node)} (h : other ≠ location) :
    (nodes.filter fun entry => entry.1 ≠ location).lookup other = nodes.lookup other := by
  induction nodes with
  | nil => rfl
  | cons entry nodes ih =>
      by_cases hplace : entry.1 = location
      · have hother : (other == entry.1) = false := by
          rw [hplace]
          exact beq_false_of_ne h
        rw [List.filter_cons_of_neg (by simp [hplace]), List.lookup_cons, hother, ih]
      · rw [List.filter_cons_of_pos (by simp [hplace]), List.lookup_cons, List.lookup_cons, ih]

theorem node?_put_of_ne (h : other ≠ location) :
    (files.put location node).node? other = files.node? other := by
  have hother : (other == location) = false := beq_false_of_ne h
  rw [node?, node?, put, List.lookup_cons, hother, lookup_filter_ne h]

@[simp]
theorem put_put (other : Node) :
    (files.put location other).put location node = files.put location node := by
  simp [put]

/-! ## Storing bytes at a location -/

theorem bytes?_eq_some_iff :
    files.bytes? location = some bytes ↔
      files.node? location = some (.file bytes) ∨
        ∃ program, files.node? location = some (.executable program bytes) := by
  rw [bytes?, Option.bind_eq_some_iff]
  constructor
  · rintro ⟨node, hnode, hbytes⟩
    cases node with
    | directory => cases hbytes
    | device device => cases hbytes
    | file bytes' =>
        cases hbytes
        exact .inl hnode
    | executable program bytes' =>
        cases hbytes
        exact .inr ⟨program, hnode⟩
  · rintro (hnode | ⟨program, hnode⟩)
    · exact ⟨_, hnode, rfl⟩
    · exact ⟨_, hnode, rfl⟩

theorem bytes?_store_self (h : location ≠ []) :
    (files.store location bytes).bytes? location = some bytes := by
  rw [bytes?, store, node?_put_self h]
  split
  · rfl
  · rfl

theorem node?_store_of_ne (h : other ≠ location) :
    (files.store location bytes).node? other = files.node? other :=
  node?_put_of_ne h

/-- What stands at a location stays a program if it is one. -/
theorem store_store (h : location ≠ []) (other : List UInt8) :
    (files.store location other).store location bytes = files.store location bytes := by
  unfold store
  rw [node?_put_self h]
  split
  · rw [put_put]
  · rw [put_put]

@[simp]
theorem node?_use (count : Nat) : (files.use count).node? location = files.node? location := rfl

theorem use_of_unlimited (h : files.limit = none) (count : Nat) : files.use count = files := by
  cases files
  cases h
  rfl

/-! ## Following a path -/

theorem follow_cons_eq_ok_iff {step : Step} {rest : List Step} :
    files.follow start (step :: rest) = .ok target ↔
      files.node? start = some .directory ∧
        (∀ name, step = .enter name → width name ≤ longestName) ∧
        files.follow (move start step) rest = .ok target := by
  by_cases hstart : files.node? start = some .directory
  · cases step with
    | stay => simp [follow, hstart]
    | up => simp [follow, hstart]
    | enter name =>
        by_cases hwidth : width name ≤ longestName
        · simp [follow, hstart, hwidth, Nat.not_lt.mpr hwidth]
        · simp [follow, hstart, hwidth, Nat.not_le.mp hwidth]
  · have herror : ∀ result, files.follow start (step :: rest) ≠ .ok result := by
      intro result h
      simp only [follow] at h
      split at h
      · cases h
      · contradiction
      · cases h
    simp [hstart, herror]

/-- All directories are still there, and relative paths begin in the same one. -/
structure Keeps (files after : Files) : Prop where
  working : after.working = files.working
  directory : ∀ place, files.node? place = some .directory → after.node? place = some .directory

/-- The way to a place only goes through directories. -/
theorem Keeps.follow (hkeeps : files.Keeps after) {steps : List Step}
    (h : files.follow start steps = .ok target) : after.follow start steps = .ok target := by
  induction steps generalizing start with
  | nil => exact h
  | cons step rest ih =>
      obtain ⟨hstart, hwidth, hrest⟩ := follow_cons_eq_ok_iff.mp h
      exact follow_cons_eq_ok_iff.mpr ⟨hkeeps.directory start hstart, hwidth, ih hrest⟩

theorem Keeps.locate (hkeeps : files.Keeps after) {found : Location × Path}
    (h : files.locate path = .ok found) : after.locate path = .ok found := by
  unfold Files.locate at h ⊢
  split at h
  · cases h
  split at h
  · cases h
  split at h
  · cases h
  · cases hfollow : files.follow
        (if (Path.parse path).absolute then [] else files.working) (Path.parse path).steps with
    | error cause => simp [hfollow, Except.map] at h
    | ok target =>
        have hafter := hkeeps.follow hfollow
        simp_all [Except.map, hkeeps.working]

theorem keeps_store (h : files.node? location ≠ some .directory) :
    files.Keeps (files.store location bytes) where
  working := rfl
  directory place hplace := by
    have hne : place ≠ location := by
      rintro rfl
      exact h hplace
    rw [node?_store_of_ne hne, hplace]

theorem Keeps.use (h : files.Keeps after) (count : Nat) : files.Keeps (after.use count) where
  working := h.working
  directory := h.directory

theorem read_eq_of_bytes? (hlocate : files.locate path = .ok (location, parsed))
    (hclosed : parsed.closed = false) (h : files.bytes? location = some bytes) :
    files.read path = .ok bytes := by
  rcases bytes?_eq_some_iff.mp h with hnode | ⟨program, hnode⟩
  · simp [read, find, hlocate, hclosed, hnode, bind, Except.bind]
  · simp [read, find, hlocate, hclosed, hnode, bind, Except.bind]

/-! ## Files that can be written -/

/-- The path leads to a file that holds `old`, or to a free place, and nothing forbids to write
there.  A free place counts as a file that holds nothing. -/
structure Writable
    (files : Files) (path : String) (location : Location) (old : List UInt8) : Prop where
  leads : ∃ parsed, files.locate path = .ok (location, parsed) ∧ parsed.closed = false
  holds : files.bytes? location = some old ∨ files.node? location = none ∧ old = []
  allowed : files.refusals.lookup location = none

/-- The disk has room for the bytes. -/
def Fits (files : Files) (bytes : List UInt8) : Prop :=
  ∀ limit, files.limit = some limit → bytes.length ≤ limit.room

theorem taken_of_fits (h : files.Fits bytes) : files.taken bytes = bytes := by
  unfold taken
  split
  · rfl
  · next limit hlimit => exact List.take_of_length_le (h limit hlimit)

theorem shortage?_of_fits (h : files.Fits bytes) : files.shortage? bytes = none := by
  unfold shortage?
  split
  · rfl
  · next limit hlimit => rw [if_pos (h limit hlimit)]

theorem exists_limit_of_not_fits (h : ¬files.Fits bytes) :
    ∃ limit, files.limit = some limit ∧ limit.room < bytes.length := by
  cases hlimit : files.limit with
  | none => simp [Fits, hlimit] at h
  | some limit => exact ⟨limit, rfl, by simpa [Fits, hlimit] using h⟩

/-- The file at the end of a path has grown by some bytes, or was made of them, and no other
place has changed. -/
def Grown (files after : Files) (path : String) (bytes : List UInt8) : Prop :=
  ∃ location old, files.Writable path location old ∧
    after.read path = .ok (old ++ bytes) ∧
      ∀ other ≠ location, after.node? other = files.node? other

namespace Writable

theorem node?_ne_directory (h : files.Writable path location old) :
    files.node? location ≠ some .directory := by
  intro hdirectory
  rcases h.holds with hbytes | ⟨hfree, -⟩
  · simp [bytes?, hdirectory, Node.bytes?] at hbytes
  · simp [hdirectory] at hfree

theorem location_ne_nil (h : files.Writable path location old) : location ≠ [] := by
  rintro rfl
  exact h.node?_ne_directory rfl

theorem receiver_eq (h : files.Writable path location old) :
    files.receiver path = .ok (.file location old) := by
  obtain ⟨parsed, hlocate, hclosed⟩ := h.leads
  rcases h.holds with hbytes | ⟨hfree, rfl⟩
  · rcases bytes?_eq_some_iff.mp hbytes with hnode | ⟨program, hnode⟩
    · simp [receiver, hlocate, hclosed, hnode, h.allowed, bind, Except.bind]
    · simp [receiver, hlocate, hclosed, hnode, h.allowed, bind, Except.bind]
  · simp [receiver, hlocate, hclosed, hfree, h.allowed, bind, Except.bind]

/-- The path tells the location, and what the file there holds. -/
theorem unique {old' : List UInt8} (h : files.Writable path location old)
    (h' : files.Writable path other old') : location = other ∧ old = old' := by
  have heq := h.receiver_eq.symm.trans h'.receiver_eq
  rw [Except.ok.injEq, Receiver.file.injEq] at heq
  exact heq

theorem extend_eq (h : files.Writable path location old) (bytes : List UInt8) :
    files.extend path bytes =
      { files := (files.store location (old ++ files.taken bytes)).use (files.taken bytes).length
        cause? := files.shortage? bytes } := by
  rw [extend, h.receiver_eq]
  rfl

theorem store (h : files.Writable path location old) (bytes : List UInt8) :
    (files.store location bytes).Writable path location bytes := by
  obtain ⟨parsed, hlocate, hclosed⟩ := h.leads
  exact
    { leads := ⟨parsed, (keeps_store h.node?_ne_directory).locate hlocate, hclosed⟩
      holds := .inl (bytes?_store_self h.location_ne_nil)
      allowed := h.allowed }

theorem read_store (h : files.Writable path location old) (bytes : List UInt8) :
    (files.store location bytes).read path = .ok bytes := by
  obtain ⟨parsed, hlocate, hclosed⟩ := (h.store bytes).leads
  exact read_eq_of_bytes? hlocate hclosed (bytes?_store_self h.location_ne_nil)

theorem grown (h : files.Writable path location old) (bytes : List UInt8) (count : Nat) :
    files.Grown ((files.store location (old ++ bytes)).use count) path bytes := by
  obtain ⟨parsed, hlocate, hclosed⟩ := h.leads
  have hkeeps : files.Keeps ((files.store location (old ++ bytes)).use count) :=
    (keeps_store h.node?_ne_directory).use count
  refine ⟨location, old, h, ?_, fun other hother => node?_store_of_ne hother⟩
  exact read_eq_of_bytes? (hkeeps.locate hlocate) hclosed
    (bytes?_store_self h.location_ne_nil)

theorem extend_of_fits (h : files.Writable path location old) (hfits : files.Fits bytes) :
    (files.extend path bytes).cause? = none ∧ (files.extend path bytes).shown = false ∧
      files.Grown (files.extend path bytes).files path bytes := by
  rw [h.extend_eq, taken_of_fits hfits, shortage?_of_fits hfits]
  exact ⟨rfl, rfl, h.grown bytes bytes.length⟩

end Writable

/-- The file can be written, and the disk takes whatever is written to it. -/
structure Appendable
    (files : Files) (path : String) (location : Location) (old : List UInt8) : Prop
    extends Writable files path location old where
  unlimited : files.limit = none

namespace Appendable

theorem fits (h : files.Appendable path location old) (bytes : List UInt8) :
    files.Fits bytes := by
  intro limit hlimit
  rw [h.unlimited] at hlimit
  cases hlimit

theorem extend_eq (h : files.Appendable path location old) (bytes : List UInt8) :
    files.extend path bytes = { files := files.store location (old ++ bytes) } := by
  have hfits := h.fits bytes
  have hunlimited : (files.store location (old ++ bytes)).limit = none := h.unlimited
  rw [h.toWritable.extend_eq, taken_of_fits hfits, shortage?_of_fits hfits,
    use_of_unlimited hunlimited]

/-- The path leads to the same place when bytes have been stored there. -/
theorem store (h : files.Appendable path location old) (bytes : List UInt8) :
    (files.store location bytes).Appendable path location bytes where
  toWritable := h.toWritable.store bytes
  unlimited := h.unlimited

end Appendable

/-! ## Devices and obstacles -/

/-- The path leads to a device, and nothing forbids to write to it. -/
def LeadsToDevice (files : Files) (path : String) (device : Device) : Prop :=
  ∃ location parsed, files.locate path = .ok (location, parsed) ∧ parsed.closed = false ∧
    files.node? location = some (.device device) ∧ files.refusals.lookup location = none

theorem LeadsToDevice.receiver_eq (h : files.LeadsToDevice path device) :
    files.receiver path = .ok (.device device) := by
  obtain ⟨location, parsed, hlocate, hclosed, hnode, hallowed⟩ := h
  simp [receiver, hlocate, hclosed, hnode, hallowed, bind, Except.bind]

theorem LeadsToDevice.not_writable (h : files.LeadsToDevice path device) :
    ¬files.Writable path location old := by
  intro hwritable
  have heq := h.receiver_eq.symm.trans hwritable.receiver_eq
  cases heq

/-- A device takes the bytes, and standard output shows them. -/
theorem LeadsToDevice.extend_eq (h : files.LeadsToDevice path device) (hfull : device ≠ .full) :
    files.extend path bytes = { files, shown := decide (device = .output) } := by
  rw [extend, h.receiver_eq]
  cases device with
  | full => contradiction
  | null => rfl
  | zero => rfl
  | output => rfl
  | errors => rfl

/-- What keeps bytes from being appended at a path: what is reported, and how many of the bytes
the file takes all the same, unless it is not even opened. -/
inductive Obstacle (files : Files) (path : String) (bytes : List UInt8) :
    SystemError → Option Nat → Prop where
  /-- The path leads nowhere: a directory on the way is missing, say. -/
  | astray {cause : SystemError} (hlocate : files.locate path = .error cause) :
      Obstacle files path bytes cause none
  /-- The path leads to a directory, or could only lead to one. -/
  | directory {location : Location} {parsed : Path}
      (hlocate : files.locate path = .ok (location, parsed))
      (hdirectory : parsed.closed = true ∨ files.node? location = some .directory) :
      Obstacle files path bytes .isADirectory none
  /-- Nothing may be written there: the file is read-only, say. -/
  | refused {location : Location} {parsed : Path} {cause : SystemError}
      (hlocate : files.locate path = .ok (location, parsed)) (hclosed : parsed.closed = false)
      (hnode : files.node? location ≠ some .directory)
      (hrefusal : files.refusals.lookup location = some cause) :
      Obstacle files path bytes cause none
  /-- The device takes nothing. -/
  | full (hdevice : files.LeadsToDevice path .full) (hbytes : bytes ≠ []) :
      Obstacle files path bytes .noSpace none
  /-- The disk does not have room for all bytes. -/
  | short {location : Location} {old : List UInt8} {limit : Limit}
      (hwritable : files.Writable path location old) (hlimit : files.limit = some limit)
      (hroom : limit.room < bytes.length) :
      Obstacle files path bytes limit.cause (some limit.room)

/-- All files are as they were, or the one at the end of the path has grown by that many of the
bytes. -/
def Partly (files after : Files) (path : String) (bytes : List UInt8) : Option Nat → Prop
  | none => after = files
  | some count => count < bytes.length ∧ files.Grown after path (bytes.take count)

theorem receiver_of_directory (hlocate : files.locate path = .ok (location, parsed))
    (hdirectory : parsed.closed = true ∨ files.node? location = some .directory) :
    files.receiver path = .error .isADirectory := by
  cases hclosed : parsed.closed with
  | true => simp [receiver, hlocate, hclosed, bind, Except.bind]
  | false =>
      have hnode : files.node? location = some .directory := by simpa [hclosed] using hdirectory
      simp [receiver, hlocate, hclosed, hnode, bind, Except.bind]

theorem receiver_of_refused (hlocate : files.locate path = .ok (location, parsed))
    (hclosed : parsed.closed = false) (hnode : files.node? location ≠ some .directory)
    (hrefusal : files.refusals.lookup location = some cause) :
    files.receiver path = .error cause := by
  simp only [receiver, hlocate, bind, Except.bind, hclosed, Bool.false_eq_true, if_false, hrefusal]

/-- An obstacle is reported, and nothing comes out on standard output. -/
theorem Obstacle.extend (h : files.Obstacle path bytes cause count?) :
    (files.extend path bytes).cause? = some cause ∧ (files.extend path bytes).shown = false ∧
      files.Partly (files.extend path bytes).files path bytes count? := by
  cases h with
  | astray hlocate =>
      have hreceiver : files.receiver path = .error cause := by
        rw [receiver, hlocate]
        rfl
      simp [Files.extend, hreceiver, Partly]
  | directory hlocate hdirectory =>
      simp [Files.extend, receiver_of_directory hlocate hdirectory, Partly]
  | refused hlocate hclosed hnode hrefusal =>
      simp [Files.extend, receiver_of_refused hlocate hclosed hnode hrefusal, Partly]
  | full hdevice hbytes => simp [Files.extend, hdevice.receiver_eq, write, hbytes, Partly]
  | @short location old limit hwritable hlimit hroom =>
      have htaken : files.taken bytes = bytes.take limit.room := by
        rw [taken, hlimit]
      have hshortage : files.shortage? bytes = some limit.cause := by
        rw [shortage?, hlimit]
        exact if_neg (Nat.not_le.mpr hroom)
      rw [hwritable.extend_eq, htaken, hshortage]
      exact ⟨rfl, rfl, hroom, hwritable.grown _ _⟩

theorem Writable.fits_or_obstacle (h : files.Writable path location old) (bytes : List UInt8) :
    files.Fits bytes ∨ ∃ cause count?, files.Obstacle path bytes cause count? := by
  by_cases hfits : files.Fits bytes
  · exact .inl hfits
  · obtain ⟨limit, hlimit, hroom⟩ := exists_limit_of_not_fits hfits
    exact .inr ⟨limit.cause, some limit.room, .short h hlimit hroom⟩

/-- At the end of a path that may be written to there is a file or a free place, or a device. -/
theorem writable_or_device (hlocate : files.locate path = .ok (location, parsed))
    (hclosed : parsed.closed = false) (hnode : files.node? location ≠ some .directory)
    (hallowed : files.refusals.lookup location = none) :
    (∃ old, files.Writable path location old) ∨ ∃ device, files.LeadsToDevice path device := by
  cases hplace : files.node? location with
  | none => exact .inl ⟨[], ⟨parsed, hlocate, hclosed⟩, .inr ⟨hplace, rfl⟩, hallowed⟩
  | some node =>
      cases node with
      | directory => exact absurd hplace hnode
      | file old =>
          have hold : files.bytes? location = some old := bytes?_eq_some_iff.mpr (.inl hplace)
          exact .inl ⟨old, ⟨parsed, hlocate, hclosed⟩, .inl hold, hallowed⟩
      | executable program old =>
          have hold : files.bytes? location = some old :=
            bytes?_eq_some_iff.mpr (.inr ⟨program, hplace⟩)
          exact .inl ⟨old, ⟨parsed, hlocate, hclosed⟩, .inl hold, hallowed⟩
      | device device => exact .inr ⟨device, location, parsed, hlocate, hclosed, hplace, hallowed⟩

/-- Bytes are taken by a file, kept from being appended, or taken by a device. -/
theorem fits_or_obstacle_or_device (files : Files) (path : String) (hbytes : bytes ≠ []) :
    (∃ location old, files.Writable path location old ∧ files.Fits bytes) ∨
      (∃ cause count?, files.Obstacle path bytes cause count?) ∨
      ∃ device, files.LeadsToDevice path device ∧ device ≠ .full := by
  cases hlocate : files.locate path with
  | error cause => exact .inr (.inl ⟨cause, none, .astray hlocate⟩)
  | ok found =>
      obtain ⟨location, parsed⟩ := found
      by_cases hdirectory : parsed.closed = true ∨ files.node? location = some .directory
      · exact .inr (.inl ⟨_, none, .directory hlocate hdirectory⟩)
      obtain ⟨hclosed, hnode⟩ := not_or.mp hdirectory
      rw [Bool.not_eq_true] at hclosed
      cases hrefusal : files.refusals.lookup location with
      | some cause =>
          exact .inr (.inl ⟨cause, none, .refused hlocate hclosed hnode hrefusal⟩)
      | none =>
          obtain ⟨old, hwritable⟩ | ⟨device, hdevice⟩ :=
            writable_or_device hlocate hclosed hnode hrefusal
          · obtain hfits | hobstacle := hwritable.fits_or_obstacle bytes
            · exact .inl ⟨location, old, hwritable, hfits⟩
            · exact .inr (.inl hobstacle)
          · by_cases hfull : device = .full
            · subst hfull
              exact .inr (.inl ⟨_, none, .full hdevice hbytes⟩)
            · exact .inr (.inr ⟨device, hdevice, hfull⟩)

end Files
end Host
end MetricsScript

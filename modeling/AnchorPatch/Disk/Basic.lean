import AnchorPatch.Path

namespace AnchorPatch

/-- Where something is on a disk: the names from the root down. -/
abbrev Location := List Text

namespace Location

def toPath (l : Location) : Path :=
  match l with
  | [] => ['/']
  | names => names.flatMap ('/' :: ·)

end Location

/-- What a file holds: a text, or bytes that are not the UTF-8 form of a text. -/
inductive Content
  | text (s : Text)
  | bytes (bs : List UInt8)
deriving Repr, DecidableEq

/-- What is at a location. Modes are permission bits. -/
inductive Entry
  | directory (mode : Nat)
  | file (content : Content) (mode : Nat)
  | link (target : Path)
deriving Repr, DecidableEq

/-- The reasons for which the system refuses to do something. -/
inductive DiskError
  | notFound
  | notADirectory
  | isADirectory
  | tooManyLinks
  | busy
  | nameTooLong
  | notText
deriving Repr, DecidableEq

def DiskError.message : DiskError → String
  | .notFound => "No such file or directory (os error 2)"
  | .notADirectory => "Not a directory (os error 20)"
  | .isADirectory => "Is a directory (os error 21)"
  | .tooManyLinks => "Too many levels of symbolic links (os error 40)"
  | .busy => "Device or resource busy (os error 16)"
  | .nameTooLong => "File name too long (os error 36)"
  | .notText => "stream did not contain valid UTF-8"

def directoryMode : Nat := 0o755

/-- A disk, and the directory from which relative paths start. -/
structure Disk where
  entries : List (Location × Entry)
  current : Location
deriving Repr

namespace Disk

/-- What is at a location. The root is always a directory. -/
def get? (d : Disk) (l : Location) : Option Entry :=
  if l = [] then some (.directory directoryMode) else d.entries.lookup l

/-- Replaces the entry at a location, or adds one. -/
def putEntry (l : Location) (e : Entry) : List (Location × Entry) → List (Location × Entry)
  | [] => [(l, e)]
  | (k, x) :: rest => if k = l then (l, e) :: rest else (k, x) :: putEntry l e rest

def put (d : Disk) (l : Location) (e : Entry) : Disk := { d with entries := putEntry l e d.entries }

def erase (d : Disk) (l : Location) : Disk :=
  { d with entries := d.entries.filter fun (k, _) => !l.isPrefixOf k }

theorem lookup_putEntry_self (l : Location) (e : Entry) (es : List (Location × Entry)) :
    (putEntry l e es).lookup l = some e := by
  induction es with
  | nil => simp [putEntry]
  | cons x es ih =>
      obtain ⟨k, y⟩ := x
      by_cases hk : k = l
      · simp [putEntry, hk]
      · have hne : (l == k) = false := by simpa using fun h => hk h.symm
        simp [putEntry, hk, List.lookup_cons, hne, ih]

theorem lookup_putEntry_of_ne {l k : Location} (e : Entry) (es : List (Location × Entry))
    (h : k ≠ l) : (putEntry l e es).lookup k = es.lookup k := by
  induction es with
  | nil =>
      have hne : (k == l) = false := by simpa using h
      simp [putEntry, List.lookup_cons, hne]
  | cons x es ih =>
      obtain ⟨j, y⟩ := x
      by_cases hj : j = l
      · have hne : (k == l) = false := by simpa using h
        simp [putEntry, hj, List.lookup_cons, hne]
      · by_cases hkj : (k == j) = true <;> simp_all [putEntry, List.lookup_cons]

@[simp] theorem get?_put_self (d : Disk) (l : Location) (e : Entry) (h : l ≠ []) :
    (d.put l e).get? l = some e := by
  simp [get?, put, h, lookup_putEntry_self]

theorem get?_put_of_ne (d : Disk) {l k : Location} (e : Entry) (h : k ≠ l) :
    (d.put l e).get? k = d.get? k := by
  unfold get? put
  split
  · rfl
  · exact lookup_putEntry_of_ne e d.entries h

theorem putEntry_of_lookup {l : Location} {e : Entry} {es : List (Location × Entry)}
    (h : es.lookup l = some e) : putEntry l e es = es := by
  induction es with
  | nil => cases h
  | cons x es ih =>
      obtain ⟨k, y⟩ := x
      by_cases hk : k = l
      · simp_all [putEntry]
      · have hne : (l == k) = false := by simpa using fun h => hk h.symm
        rw [List.lookup_cons, hne] at h
        simp [putEntry, hk, ih h]

theorem put_of_get? {d : Disk} {l : Location} {e : Entry} (hl : l ≠ []) (h : d.get? l = some e) :
    d.put l e = d := by
  rw [get?, if_neg hl] at h
  rw [put, putEntry_of_lookup h]

@[simp] theorem current_put (d : Disk) (l : Location) (e : Entry) :
    (d.put l e).current = d.current := rfl

end Disk

end AnchorPatch

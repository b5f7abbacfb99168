import SeriesBench.Table.Writer

/-!
# Registries of table writers

A registry owns the writers of many tables, one for each measurement that is asked for,
created from the first point that asks. It hands out handles; a handle stays valid for
good, also when the registry has been closed and has forgotten the table, because
whoever holds it may still use it.
-/

namespace SeriesBench

/-- The writers of many tables. -/
structure Registry where
  layout : Layout
  /-- All writers that were ever created; a handle is a position here. -/
  writers : Array TableWriter
  /-- The measurements in use, each with the handle of its writer, oldest first. -/
  active : List (String × Nat)
deriving Repr

namespace Registry

/-- A registry without tables. -/
def empty (layout : Layout) : Registry :=
  ⟨layout, #[], []⟩

/-- How many tables are in use. -/
def size (r : Registry) : Nat :=
  r.active.length

/-- The measurements in use. -/
def tables (r : Registry) : List String :=
  r.active.map (·.1)

/-- The handle of the writer for a point's measurement, which is created from the point
if there is none. -/
def obtain (r : Registry) (sample : Point) : Nat × Registry :=
  match r.active.lookup sample.measurement with
  | some handle => (handle, r)
  | none =>
    (r.writers.size,
      { r with
        writers := r.writers.push (.create sample.measurement sample r.layout)
        active := r.active ++ [(sample.measurement, r.writers.size)] })

/-- Puts a writer back in its place. -/
def put (r : Registry) (handle : Nat) (w : TableWriter) : Registry :=
  { r with writers := r.writers.setIfInBounds handle w }

/-- Closes the writers at some handles in turn. Each is attempted; the fault is that of
the first that fails. -/
def closeAt (r : Registry) (link : Link) : List Nat → Except Fault Unit × Registry × Link
  | [] => (.ok (), r, link)
  | handle :: rest =>
    match r.writers[handle]? with
    | none => closeAt r link rest
    | some w =>
      let (first, w, link) := w.close link
      let (later, r, link) := closeAt (r.put handle w) link rest
      (match first with
        | .ok () => later
        | .error fault => .error fault, r, link)

/-- Closes and forgets every table. -/
def close (r : Registry) (link : Link) : Except Fault Unit × Registry × Link :=
  let (answer, r, link) := r.closeAt link (r.active.map (·.2))
  (answer, { r with active := [] }, link)

end Registry

end SeriesBench

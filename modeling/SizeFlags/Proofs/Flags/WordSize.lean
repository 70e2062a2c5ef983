import SizeFlags.Proofs.Flags.Report
import SizeFlags.Proofs.Size.Grammar

set_option autoImplicit false

/-!
# Flags under both word sizes

A wider machine word changes shapes and nothing else: it keeps their signs and
only moves their bounds apart.  So a file is loaded under both word sizes or is
at the same fault under both, and a size that is read under 32 bits is read
under 64 bits.
-/

namespace SizeFlags

/-- A shape whose integers, and whose sign, another shape has as well. -/
structure Shape.Within (narrow wide : Shape) : Prop where
  signed : narrow.signed = true → wide.signed = true
  min : wide.min ≤ narrow.min
  max : narrow.max ≤ wide.max

theorem Shape.Within.read? {narrow wide : Shape} (h : narrow.Within wide) {t : Text} {size : Int}
    (hread : Size.read? narrow t = some size) : Size.read? wide t = some size :=
  Size.read?_of_narrower h.signed h.min h.max hread

namespace TypeName

end TypeName

namespace Flags

namespace Setting

/-- What a setting takes from its file and its variables. -/
def written (setting : Setting) : Text × Text × Text :=
  (setting.name, setting.typeName, setting.raw)

/-- The same flag with a shape that reads no fewer sizes. -/
structure Widens (narrow wide : Setting) : Prop where
  written : wide.written = narrow.written
  size : ∀ size, Size.read? narrow.shape narrow.raw = some size →
    Size.read? wide.shape wide.raw = some size

/-- A flag that has a size is reported in the same words. -/
theorem Widens.validLine?_eq {narrow wide : Setting} (h : narrow.Widens wide)
    (hsize : Size.read? narrow.shape narrow.raw ≠ none) : wide.validLine? = narrow.validLine? := by
  obtain ⟨size, hnarrow⟩ := Option.ne_none_iff_exists'.mp hsize
  have hwide : Size.read? wide.shape wide.raw = some size := h.size size hnarrow
  obtain ⟨hname, htype, _⟩ : wide.name = narrow.name ∧ wide.typeName = narrow.typeName ∧
      wide.raw = narrow.raw := by simpa [Setting.written] using h.written
  unfold validLine? size?
  rw [hwide, hnarrow, hname, htype]

end Setting

namespace Config

/-- The same flags of the same file, each with a shape that reads no fewer sizes. -/
structure Widens (narrow wide : Config) : Prop where
  file : wide.file = narrow.file
  settings : List.Forall₂ Setting.Widens narrow.settings wide.settings

variable {narrow wide : Config}

theorem Widens.validLines_eq (h : narrow.Widens wide) (hrefused : narrow.refused = []) :
    wide.validLines = narrow.validLines := by
  have haccepted : ∀ setting ∈ narrow.settings, Size.read? setting.shape setting.raw ≠ none := by
    intro setting hmem hnone
    have hin : setting ∈ narrow.refused := List.mem_filter.mpr ⟨hmem, decide_eq_true hnone⟩
    rw [hrefused] at hin
    exact List.not_mem_nil hin
  have hlines := (List.forall₂_and_left _ _).mpr ⟨haccepted, h.settings⟩
  unfold validLines
  generalize narrow.settings = before, wide.settings = after at hlines
  induction hlines with
  | nil => rfl
  | cons hfirst _ ih =>
    have hline := hfirst.2.validLine?_eq hfirst.1
    rw [List.filterMap_cons, List.filterMap_cons, hline, ih]

end Config

end Flags

end SizeFlags

import PageConfig.Context.Viewport
import PageConfig.Document.Layout
import PageConfig.Value.Merge

/-!
# Responsive overrides

One tier applies to a viewport, and the overrides for wide screens are merged
on top of it.
-/

set_option autoImplicit false

namespace PageConfig.Responsive

/-- The overrides of the viewport's tier. A viewport of no tier is a desktop. -/
def tier (o : Responsive) (viewport : Viewport) : Props :=
  (if viewport.isMobile then o.mobile else if viewport.isTablet then o.tablet else o.desktop).getD []

def overrides (o : Responsive) (viewport : Viewport) : Props :=
  match viewport.isWide, o.wide with
  | true, some wide => Props.mergeDeep (o.tier viewport) wide
  | _, _ => o.tier viewport

end PageConfig.Responsive

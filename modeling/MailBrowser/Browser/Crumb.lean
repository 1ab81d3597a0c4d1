import MailBrowser.Browser.SearchSession
import MailBrowser.Browser.View

/-!
# Crumbs

A crumb is a view that has been left and can be gone back to.

* `Crumb.leave`     the crumb of a view; what was loaded is kept only if it is complete;
* `Crumb.restore`   the view again, and whether what was loaded came with it.
-/

namespace MailBrowser

/-- The view of a crumb holds nothing that was loaded: that is `kept`, if it can be used again. -/
structure Crumb where
  view : View
  kept : Option Loaded
  searchMode : SearchMode := .fast
  searchTotal : Int := 0
deriving DecidableEq

namespace Crumb

def leave (v : View) (reusable : Bool) (mode : SearchMode) (total : Int) : Crumb where
  view := { v with data := {} }
  kept := if reusable then some v.data else none
  searchMode := mode
  searchTotal := total

def isKept (c : Crumb) : Bool := c.kept.isSome

/-- the view that was left, empty if it has to be loaded again -/
def restore (c : Crumb) : View := { c.view with data := c.kept.getD c.view.data }

theorem restore_leave (v : View) (mode : SearchMode) (total : Int) :
    (leave v true mode total).restore = v := rfl

end Crumb
end MailBrowser

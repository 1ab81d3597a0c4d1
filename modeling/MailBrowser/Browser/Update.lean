import MailBrowser.Browser.Arrivals
import MailBrowser.Browser.Keymap

/-!
# Transitions

* `Browser.update`   the browser after an event, and what it asks for.
-/

namespace MailBrowser
namespace Browser

def update (b : Browser) : Event → Step
  | .key k => b.press k
  | .resize height => (b.resize height).still
  | .rowsLoaded id result => (b.rowsArrived id result).still
  | .messagesLoaded id result => (b.messagesArrived id result).still
  | .threadLoaded id result => (b.threadArrived id result).still
  | .detailLoaded id result => (b.detailArrived id result).still
  | .searchLoaded id append result => (b.searchArrived id append result).still
  | .searchTick query token => b.ticked query token
  | .flashExpired generation => (b.expireFlash generation).still
  | .statsLoaded result => (b.statsArrived result).still
  | .accountsLoaded result => (b.accountsArrived result).still
  | .manifestBuilt result => b.manifestBuilt result
  | .manifestSaved result => b.manifestSaved result
  | .exportFinished result => b.exportFinished result

end Browser
end MailBrowser

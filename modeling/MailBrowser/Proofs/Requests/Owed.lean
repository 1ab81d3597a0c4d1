import MailBrowser.Proofs.Requests.Fits

/-!
# What is owed

Every effect that a browser asks for is owed until its outcome comes.  Nothing is asked of the
events: what comes unasked settles nothing, though the browser takes it in all the same.

* `Event.settles`   whether an event is an outcome of an effect, as a test;
* `Browser.owing`   what is owed after some events, `owing_append` after some more;
* `Browser.owed`    what is owed in a session;
* `mem_settle`      what an event leaves owed.
-/

namespace MailBrowser

def Event.settles : Event → Effect → Bool
  | .rowsLoaded id _, .loadRows n _ _ _ => id = n
  | .messagesLoaded id _, .loadMessages n _ _ => id = n
  | .threadLoaded id _, .loadThread n _ _ => id = n
  | .detailLoaded id _, .loadDetail n _ => id = n
  | .searchLoaded id append _, .search n q => id = n && append = q.append
  | .searchTick query token, .searchTick _ q n => query = q && token = n
  | .flashExpired generation, .expireFlash _ n => generation = n
  | .statsLoaded _, .loadStats _ => true
  | .accountsLoaded _, .loadAccounts => true
  | .manifestBuilt _, .buildManifest _ => true
  | .manifestSaved _, .saveManifest _ => true
  | .exportFinished _, .exportAttachments _ _ _ => true
  | _, _ => false

theorem Event.settles_iff {e : Event} {x : Effect} : e.settles x = true ↔ Outcome x e := by
  constructor
  · intro h
    unfold settles at h
    split at h
    · obtain rfl := of_decide_eq_true h; exact .rows ..
    · obtain rfl := of_decide_eq_true h; exact .messages ..
    · obtain rfl := of_decide_eq_true h; exact .thread ..
    · obtain rfl := of_decide_eq_true h; exact .detail ..
    · rw [Bool.and_eq_true, decide_eq_true_eq, decide_eq_true_eq] at h
      obtain ⟨rfl, rfl⟩ := h; exact .search ..
    · rw [Bool.and_eq_true, decide_eq_true_eq, decide_eq_true_eq] at h
      obtain ⟨rfl, rfl⟩ := h; exact .tick ..
    · obtain rfl := of_decide_eq_true h; exact .expired ..
    · exact .stats ..
    · exact .accounts ..
    · exact .built ..
    · exact .saved ..
    · exact .exported ..
    · cases h
  · intro h
    cases h <;> simp [settles]

instance (x : Effect) (e : Event) : Decidable (Outcome x e) :=
  decidable_of_iff _ Event.settles_iff

namespace Browser

/-- what is owed besides `waiting` is paid first come first -/
def settle (waiting : List Effect) (e : Event) : List Effect :=
  waiting.eraseP fun x => decide (Outcome x e)

def owing (b : Browser) (waiting : List Effect) : List Event → List Effect
  | [] => waiting
  | e :: es => (b.update e).1.owing (settle waiting e ++ (b.update e).2) es

def owed (c : Config) (es : List Event) : List Effect := (launch c).1.owing (launch c).2 es

theorem owing_append (b : Browser) (waiting : List Effect) (es fs : List Event) :
    b.owing waiting (es ++ fs) = (b.run es).1.owing (b.owing waiting es) fs := by
  induction es generalizing b waiting with
  | nil => rfl
  | cons e es ih => exact ih _ _

theorem owed_append (c : Config) (es fs : List Event) :
    owed c (es ++ fs) = (session c es).1.owing (owed c es) fs :=
  owing_append _ _ _ _

theorem owing_concat (b : Browser) (waiting : List Effect) (es : List Event) (e : Event) :
    b.owing waiting (es ++ [e]) =
      settle (b.owing waiting es) e ++ ((b.run es).1.update e).2 := by
  induction es generalizing b waiting with
  | nil => rfl
  | cons f es ih => exact ih _ _

theorem owed_concat (c : Config) (es : List Event) (e : Event) :
    owed c (es ++ [e]) = settle (owed c es) e ++ ((session c es).1.update e).2 :=
  owing_concat _ _ _ _

variable {waiting : List Effect} {e : Event} {x : Effect}

/-- An event settles nothing but what it is an outcome of. -/
theorem mem_settle (hx : x ∈ waiting) (he : ¬ Outcome x e) : x ∈ settle waiting e :=
  (List.mem_eraseP_of_neg (by simpa using he)).2 hx

theorem mem_of_settle (hx : x ∈ settle waiting e) : x ∈ waiting := List.mem_of_mem_eraseP hx

end Browser
end MailBrowser

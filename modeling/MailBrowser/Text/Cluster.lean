import MailBrowser.Text.Blank
import MailBrowser.Text.ClusterTable

/-!
# Clusters

A cluster is what a reader takes for one character: a letter with its marks, consonants stacked on
one another, a syllable of Hangul, a flag, several pictures tied together.

* `BreakClass`    what a character does at the edge of a cluster, `breakClass` its class;
* `Tail`          what the cluster that is being read ends in;
* `clusters`      the clusters of a text, in order: nothing is lost.
-/

namespace MailBrowser.Text

inductive BreakClass where
  | carriage | newline | control
  /-- a mark on what stands before it; one that also binds consonants, or keeps them apart; one
  with a place of its own -/
  | mark | linker | nonJoiner | spacing
  /-- a joiner, a mark on what stands after it -/
  | joiner | lead
  | flag | picture | consonant
  /-- the consonant, vowel and final letters of Hangul, syllables without and with a final -/
  | jamoL | jamoV | jamoT | syllableV | syllableT
  | other
deriving DecidableEq, Repr

/-- Two vowels of another script are combined in the way of those of Hangul. -/
def hangulClass? (n : Nat) : Option BreakClass :=
  if 0x1100 ≤ n ∧ n ≤ 0x115F ∨ 0xA960 ≤ n ∧ n ≤ 0xA97C then some .jamoL
  else if 0x1160 ≤ n ∧ n ≤ 0x11A7 ∨ 0xD7B0 ≤ n ∧ n ≤ 0xD7C6 then some .jamoV
  else if n = 0x16D63 ∨ 0x16D67 ≤ n ∧ n ≤ 0x16D6A then some .jamoV
  else if 0x11A8 ≤ n ∧ n ≤ 0x11FF ∨ 0xD7CB ≤ n ∧ n ≤ 0xD7FB then some .jamoT
  else if 0xAC00 ≤ n ∧ n ≤ 0xD7A3 then
    some (if (n - 0xAC00) % 28 = 0 then .syllableV else .syllableT)
  else none

/-- the characters that most texts are made of -/
def isPlain (c : Char) : Bool := decide (0x20 ≤ c.toNat) && decide (c.toNat < 0x7F)

def zeroWidthJoiner : Char := Char.ofNat 0x200D

def zeroWidthNonJoiner : Char := Char.ofNat 0x200C

def breakClass (c : Char) : BreakClass :=
  if isPlain c then .other
  else if c = '\r' then .carriage
  else if c = '\n' then .newline
  else if c = zeroWidthJoiner then .joiner
  else if c = zeroWidthNonJoiner then .nonJoiner
  else if inRuns ClusterTable.linkerRuns c then .linker
  else if inRuns ClusterTable.markRuns c then .mark
  else if inRuns ClusterTable.spacingRuns c then .spacing
  else if inRuns ClusterTable.controlRuns c then .control
  else if inRuns ClusterTable.leadRuns c then .lead
  else if inRuns ClusterTable.consonantRuns c then .consonant
  else if 0x1F1E6 ≤ c.toNat ∧ c.toNat ≤ 0x1F1FF then .flag
  else if inRuns ClusterTable.pictureRuns c then .picture
  else (hangulClass? c.toNat).getD .other

/-- a consonant with marks, at the end of a cluster -/
inductive Conjunct where
  | none
  | consonant
  /-- a linker is among the marks -/
  | linked
deriving DecidableEq, Repr

structure Tail where
  last : BreakClass
  /-- an odd number of flag letters -/
  oddFlags : Bool := false
  /-- a picture, with marks -/
  picture : Bool := false
  /-- a picture, with marks and a joiner -/
  tied : Bool := false
  conjunct : Conjunct := .none

/-- The class leaves the place of the cluster as it is: it only marks it. -/
def BreakClass.isMark : BreakClass → Bool
  | .mark | .linker | .nonJoiner => true
  | _ => false

def Conjunct.next (j : Conjunct) : BreakClass → Conjunct
  | .consonant => .consonant
  | .linker => if j = .none then .none else .linked
  | .mark | .joiner => j
  | _ => .none

def Tail.start (k : BreakClass) : Tail where
  last := k
  oddFlags := k == .flag
  picture := k == .picture
  conjunct := Conjunct.none.next k

def Tail.next (t : Tail) (k : BreakClass) : Tail where
  last := k
  oddFlags := k == .flag && !t.oddFlags
  picture := k == .picture || (k.isMark && t.picture)
  tied := k == .joiner && t.picture
  conjunct := t.conjunct.next k

/-- A character of the class goes to the cluster that ends like this. -/
def Tail.takes (t : Tail) (k : BreakClass) : Bool :=
  match t.last, k with
  | .carriage, .newline => true
  | .carriage, _ | .newline, _ | .control, _ => false
  | _, .carriage | _, .newline | _, .control => false
  | _, .mark | _, .linker | _, .nonJoiner | _, .spacing | _, .joiner => true
  | .lead, _ => true
  | _, .consonant => t.conjunct == .linked
  | .jamoL, .jamoL | .jamoL, .jamoV | .jamoL, .syllableV | .jamoL, .syllableT => true
  | .syllableV, .jamoV | .syllableV, .jamoT | .jamoV, .jamoV | .jamoV, .jamoT => true
  | .syllableT, .jamoT | .jamoT, .jamoT => true
  | .joiner, .picture => t.tied
  | .flag, .flag => t.oddFlags
  | _, _ => false

/-- `cluster` is the cluster that is being read, last character first. -/
def clustersFrom (cluster : List Char) (t : Tail) : List Char → List (List Char)
  | [] => [cluster.reverse]
  | c :: cs =>
    let k := breakClass c
    if t.takes k then clustersFrom (c :: cluster) (t.next k) cs
    else cluster.reverse :: clustersFrom [c] (.start k) cs

def clusters : List Char → List (List Char)
  | [] => []
  | c :: cs => clustersFrom [c] (.start (breakClass c)) cs

theorem flatten_clustersFrom (cluster : List Char) (t : Tail) (cs : List Char) :
    (clustersFrom cluster t cs).flatten = cluster.reverse ++ cs := by
  induction cs generalizing cluster t with
  | nil => simp [clustersFrom]
  | cons c cs ih => rw [clustersFrom]; split <;> simp [ih]

theorem flatten_clusters (cs : List Char) : (clusters cs).flatten = cs := by
  cases cs with
  | nil => rfl
  | cons c cs => simp [clusters, flatten_clustersFrom]

end MailBrowser.Text

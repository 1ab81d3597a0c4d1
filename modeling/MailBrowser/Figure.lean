/-!
# Figures

A figure has 64 bits, its sign included, and a sum that needs more wraps around.

* `Figure.wrap`               a number as a figure;
* `Figure.add`, `Figure.sum`   sums of figures.
-/

namespace MailBrowser.Figure

/-- the figure that a number is modulo 2^64 -/
def wrap (n : Int) : Int := n.bmod 18446744073709551616

def add (a b : Int) : Int := wrap (a + b)

def sum (ns : List Int) : Int := ns.foldl add 0

end MailBrowser.Figure

/-!
Contract: the built-in scripts.

Owns: their texts, in the order of the digit keys that load them.

Does not own: what the digit keys do.
-/

namespace LiveGrid

/-- The built-in scripts, in the order of the digits that load them. -/
def patterns : List String :=
  ["cos(t+i+x*y)",
   "c=x-16;d=y-16;max(sin(sqrt(c*c+d*d)+atan2(d,c)-2*t),0.)",
   "sin(x/2)-sin(x-t)-y+6",
   "a+(rand()-0.5)*(i/(32*32))",
   "max((y/40+v*2)-tan(x/PI+rand()-t+a)**2,0.)",
   "c=x-16;d=y-16;h=sqrt(c*c+d*d);sin(1+h/(8+2*v+rand()))**20-abs(y/60*sin(t/5)+h/100)"]

/-- The script that is loaded first. -/
def firstPattern : String := "cos(t+i+x*y)"

end LiveGrid

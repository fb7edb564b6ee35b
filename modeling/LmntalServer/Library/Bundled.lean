import LmntalServer.Library.Basic

/-!
# The bundled library

The entries that are used when no library file is given.

Main definitions:

* `Library.bundled`: the entries as a library.
-/

namespace LmntalServer
namespace Library

/-- The names of the bundled library with their signatures and descriptions. -/
def bundledMembers : List (String × String × String) :=
  [("int", "int(X)",
    "Guard type check. Succeeds when the link `X` is connected to an integer atom."),
   ("float", "float(X)",
    "Guard type check. Succeeds when the link `X` is connected to a floating-point atom."),
   ("string", "string(X)",
    "Guard type check. Succeeds when the link `X` is connected to a string atom."),
   ("unary", "unary(X)",
    "Guard type check. Succeeds when `X` is connected to an atom with exactly one argument."),
   ("ground", "ground(X)",
    "Guard type check. Succeeds when `X` is connected to a ground graph, i.e. a connected "
      ++ "graph with no free links other than `X`. The matched graph may be copied or removed in "
      ++ "the rule body."),
   ("uniq", "uniq(X1, ..., Xn)",
    "Guard constraint. Succeeds only the first time the rule is applied to a given "
      ++ "combination of `X1`..`Xn`; later attempts with the same combination fail."),
   ("hlink", "hlink(H)",
    "Guard type check. Succeeds when `H` is connected to a hyperlink."),
   ("new", "new(H)",
    "Guard. Creates a fresh hyperlink and binds it to `H`."),
   ("io.print", "io.print(Value)",
    "Prints `Value` followed by a newline to standard output."),
   ("io.printLine", "io.printLine(String, Ret)",
    "Prints `String` followed by a newline. `Ret` is connected to the printed string when the "
      ++ "call completes."),
   ("io.readLine", "io.readLine(Ret)",
    "Reads one line from standard input and connects it to `Ret` as a string atom."),
   ("integer.set", "integer.set(Min, Max, Ret)",
    "Generates one `Ret` atom for every integer from `Min` to `Max` inclusive."),
   ("integer.rnd", "integer.rnd(Max, Ret)",
    "Connects `Ret` to a random integer in the range `0` to `Max - 1`."),
   ("integer.srand", "integer.srand(Seed)",
    "Seeds the random number generator used by `integer.rnd`."),
   ("float.from", "float.from(Int, Ret)",
    "Converts the integer `Int` into a floating-point number connected to `Ret`."),
   ("string.concat", "string.concat(S1, S2, Ret)",
    "Concatenates the strings `S1` and `S2` and connects the result to `Ret`."),
   ("string.length", "string.length(S, Ret)",
    "Connects `Ret` to the number of characters in the string `S`."),
   ("string.substr", "string.substr(S, Begin, End, Ret)",
    "Connects `Ret` to the substring of `S` from index `Begin` (inclusive) to `End` "
      ++ "(exclusive)."),
   ("string.from", "string.from(Value, Ret)",
    "Converts an integer or a name atom into a string connected to `Ret`."),
   ("list.append", "list.append(L1, L2, Ret)",
    "Appends the list `L2` to the end of `L1` and connects the resulting list to `Ret`."),
   ("list.reverse", "list.reverse(L, Ret)",
    "Connects `Ret` to the list `L` in reverse order."),
   ("nlmem.copy", "nlmem.copy(Mem, Tag, Ret)",
    "Copies the membrane `Mem` together with its contents. Free links of the copy are tagged "
      ++ "with `Tag`."),
   ("nlmem.kill", "nlmem.kill(Mem)",
    "Removes the membrane `Mem` and everything inside it.")]

/-- The library that is used when no library file is given. -/
def bundled : Library :=
  ofMembers bundledMembers

end Library
end LmntalServer

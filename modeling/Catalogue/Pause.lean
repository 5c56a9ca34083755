/-!
# Pauses

Whoever waits asks for a number of milliseconds. A pause lasts that long, but never longer than
thirty years of 365 days: a moment further off than that counts as the far future, and the far
future is thirty years away.
-/

namespace Catalogue

/-- The longest pause, in milliseconds. -/
def longestPause : Nat := 30 * 365 * 24 * 60 * 60 * 1000

/-- How long a pause lasts for which some milliseconds are asked. -/
def pause (milliseconds : Nat) : Nat := min milliseconds longestPause

end Catalogue

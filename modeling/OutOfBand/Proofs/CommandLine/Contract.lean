import OutOfBand.Proofs.ArgumentFile
import OutOfBand.Proofs.CommandLine.Performance
import OutOfBand.Proofs.Operation.Entries
import OutOfBand.Proofs.Printed

/-! # What a run ends in

A run of the program ends in a fault, with nothing printed and nothing sent, or in one document. A fault of a module is
one of its file or of its name; whatever is wrong with what the file says is told in a document.
-/
namespace OutOfBand

namespace Automation

end Automation

namespace Operation

end Operation

namespace Automation

end Automation

namespace CommandLine

end CommandLine

end OutOfBand

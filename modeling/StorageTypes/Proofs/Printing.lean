import StorageTypes.Cli.Run
import StorageTypes.Proofs.Results

namespace StorageTypes.Cli

open Json (Value)
open Terminal (Markup)

namespace Printing

variable {first second : Printing}

end Printing

variable [Markup]

namespace Style

variable {message : String} {details : Dictionary Value}

end Style

namespace Invocation

variable {invocation : Invocation}

end Invocation

end StorageTypes.Cli

